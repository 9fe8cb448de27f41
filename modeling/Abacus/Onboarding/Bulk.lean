import Abacus.Onboarding.Stores

/-! Each request keeps the constraints, and a request for stores is carried out as a whole.
Under a key that is used already the stored batch is the answer, and nothing is written.
-/
set_option autoImplicit false

namespace Abacus.Onboarding

open Relational (Table)
open Python (Text text Json JsonObject)

section Canonical

/-- Two stores with the same fields, and with configurations of one text. -/
structure StoreFields.Same (runtime : Runtime) (store other : StoreFields) : Prop where
  code : store.code = other.code
  name : store.name = other.name
  timezone : store.timezone = other.timezone
  organizationPath : store.organizationPath = other.organizationPath
  zones : store.zones = other.zones
  devices : store.devices = other.devices
  configuration :
    (runtime.modelDump store.configuration).map (fun dumped => (Json.object dumped).dumps) =
      (runtime.modelDump other.configuration).map fun dumped => (Json.object dumped).dumps

def BulkStoreOnboardingRequest.Same (runtime : Runtime)
    (request other : BulkStoreOnboardingRequest) : Prop :=
  List.Forall₂ (fun store again => store.toStoreFields.Same runtime again.toStoreFields)
    request.stores other.stores

theorem dumps_string {value other : Text} :
    (Json.scalar (.string value)).dumps = (Json.scalar (.string other)).dumps ↔ value = other := by
  simp [Json.dumps,Json.normal]

/-- Lists whose elements have documents of their own are told apart by their arrays. -/
theorem dumps_map_iff {α : Type} {document : α → Json} {values others : List α}
    (apart : ∀ value other, (document value).dumps = (document other).dumps ↔ value = other) :
    (Json.array (values.map document)).dumps = (Json.array (others.map document)).dumps ↔
      values = others := by
  rw [Json.dumps_array_iff,List.forall₂_map_left_iff,List.forall₂_map_right_iff]
  simp only [apart,List.forall₂_eq_eq_eq]

theorem segmentDocument_iff (segment other : OrganizationUnitSegment) :
    (segmentDocument segment).dumps = (segmentDocument other).dumps ↔ segment = other := by
  rw [segmentDocument,segmentDocument,Json.dumps_object_iff]
  · simp only [List.forall₂_cons,List.forall₂_same,dumps_string]
    cases segment
    cases other
    simp
  · rfl
  · simp only [List.map_cons,List.map_nil]
    decide

theorem kindText_injective : Function.Injective kindText := by
  intro kind again same
  cases kind <;> cases again <;> first | rfl | (revert same; decide)

theorem zoneDocument_iff (zone other : ZoneCreate) :
    (zoneDocument zone).dumps = (zoneDocument other).dumps ↔ zone = other := by
  rw [zoneDocument,zoneDocument,Json.dumps_object_iff]
  · simp only [List.forall₂_cons,List.forall₂_same,dumps_string,kindText_injective.eq_iff]
    cases zone
    cases other
    simp
  · rfl
  · simp only [List.map_cons,List.map_nil]
    decide

theorem deviceDocument_iff (device other : DeviceCreate) :
    (deviceDocument device).dumps = (deviceDocument other).dumps ↔ device = other := by
  rw [deviceDocument,deviceDocument,Json.dumps_object_iff]
  · simp only [List.forall₂_cons,List.forall₂_same,dumps_string]
    cases device
    cases other
    simp
  · rfl
  · simp only [List.map_cons,List.map_nil]
    decide

theorem storeDocument_iff (store other : StoreFields) (configuration changed : JsonObject) :
    (storeDocument store configuration).dumps = (storeDocument other changed).dumps ↔
      store.code = other.code ∧ store.name = other.name ∧ store.timezone = other.timezone ∧
        store.organizationPath = other.organizationPath ∧ store.zones = other.zones ∧
        store.devices = other.devices ∧
        (Json.object configuration).dumps = (Json.object changed).dumps := by
  rw [storeDocument,storeDocument,Json.dumps_object_iff]
  · simp only [List.forall₂_cons,List.forall₂_same,dumps_string,dumps_map_iff segmentDocument_iff,
      dumps_map_iff zoneDocument_iff,dumps_map_iff deviceDocument_iff]
    simp
  · rfl
  · simp only [List.map_cons,List.map_nil]
    decide

variable {runtime : Runtime} {store other : StoreFields}
  {request again : BulkStoreOnboardingRequest}

theorem StoreFields.Same.text (same : store.Same runtime other) :
    (store.modelDump runtime).map Json.dumps = (other.modelDump runtime).map Json.dumps := by
  have texts := same.configuration
  rw [modelDump,modelDump,Option.map_map,Option.map_map]
  cases dumped : runtime.modelDump store.configuration with
  | none =>
      rw [dumped] at texts
      rw [Option.map_eq_none_iff.mp texts.symm]
      rfl
  | some configuration =>
      rw [dumped] at texts
      obtain ⟨changed,found,text⟩ := Option.map_eq_some_iff.mp texts.symm
      rw [found]
      exact congrArg some ((storeDocument_iff store other configuration changed).mpr
        ⟨same.code,same.name,same.timezone,same.organizationPath,same.zones,same.devices,text.symm⟩)

/-- A document determines its store, up to the order of keys in the configuration. -/
theorem StoreFields.same_of_text {document : Json}
    (text : (store.modelDump runtime).map Json.dumps = some document)
    (texts : (other.modelDump runtime).map Json.dumps = some document) : store.Same runtime other := by
  rw [modelDump,Option.map_map] at text texts
  obtain ⟨configuration,dumped,here⟩ := Option.map_eq_some_iff.mp text
  obtain ⟨changed,found,there⟩ := Option.map_eq_some_iff.mp texts
  obtain ⟨code,name,timezone,path,zones,devices,equal⟩ :=
    (storeDocument_iff store other configuration changed).mp (here.trans there.symm)
  exact ⟨code,name,timezone,path,zones,devices,by
    rw [dumped,found]; exact congrArg some equal⟩

theorem mapM_some_iff {α β : Type} {step : α → Option β} {elements : List α} {values : List β} :
    elements.mapM step = some values ↔
      List.Forall₂ (fun element value => step element = some value) elements values := by
  induction elements generalizing values with
  | nil => cases values <;> simp
  | cons element elements ih =>
      rw [List.mapM_cons,Option.bind_eq_bind,Option.bind_eq_some_iff]
      constructor
      · rintro ⟨value,first,rest⟩
        obtain ⟨values,others,last⟩ := Option.bind_eq_some_iff.mp rest
        cases last
        exact .cons first (ih.mp others)
      · rintro (_ | ⟨first,rest⟩)
        exact ⟨_,first,Option.bind_eq_some_iff.mpr ⟨_,ih.mpr rest,rfl⟩⟩

def StoreTexts (runtime : Runtime) (stores : List StoreCreate) (texts : List Json) : Prop :=
  List.Forall₂ (fun store text => (store.modelDump runtime).map Json.dumps = some text) stores texts

theorem canonical_eq_some {document : Json} : canonical runtime request = some document ↔
    ∃ texts, StoreTexts runtime request.stores texts ∧
      document = .object [(text "stores",.array texts)] := by
  have gather (documents : List Json) : (Json.object [(text "stores",.array documents)]).dumps =
      .object [(text "stores",.array (documents.map Json.dumps))] := by
    rw [Json.dumps,Json.normal,Json.normalMembers,Json.normalMembers,← Json.dumps,
      Json.dumps_array]
    rfl
  rw [canonical,BulkStoreOnboardingRequest.modelDump,Option.map_map,Option.map_eq_some_iff]
  constructor
  · rintro ⟨documents,dumped,rfl⟩
    refine ⟨documents.map Json.dumps,?_,gather documents⟩
    rw [StoreTexts,List.forall₂_map_right_iff]
    exact (mapM_some_iff.mp dumped).imp fun _ _ found => by rw [found]; rfl
  · rintro ⟨texts,all,rfl⟩
    obtain ⟨documents,dumped,rfl⟩ : ∃ documents : List Json,
        request.stores.mapM (fun store : StoreCreate => store.modelDump runtime) =
          some documents ∧ documents.map Json.dumps = texts := by
      simp only [mapM_some_iff]
      unfold StoreTexts at all
      revert all
      generalize request.stores = stores
      intro all
      induction all with
      | nil => exact ⟨[],.nil,rfl⟩
      | cons first rest ih =>
          obtain ⟨documents,dumped,same⟩ := ih
          obtain ⟨document,found,text⟩ := Option.map_eq_some_iff.mp first
          exact ⟨document :: documents,.cons found dumped,by rw [List.map_cons,text,same]⟩
    exact ⟨documents,dumped,gather documents⟩

theorem storeTexts_of_same {stores others : List StoreCreate} {texts : List Json}
    (same : List.Forall₂ (fun store again => store.toStoreFields.Same runtime again.toStoreFields)
      stores others) : StoreTexts runtime stores texts ↔ StoreTexts runtime others texts := by
  unfold StoreTexts
  induction same generalizing texts with
  | nil => rfl
  | cons first rest ih =>
      cases texts with
      | nil => simp
      | cons text texts => rw [List.forall₂_cons,List.forall₂_cons,first.text,ih]

theorem same_of_storeTexts {stores others : List StoreCreate} {texts : List Json}
    (one : StoreTexts runtime stores texts) (other : StoreTexts runtime others texts) :
    List.Forall₂ (fun store again => store.toStoreFields.Same runtime again.toStoreFields)
      stores others := by
  unfold StoreTexts at one other
  induction one generalizing others with
  | nil =>
      cases other
      exact .nil
  | cons first rest ih =>
      cases other with
      | cons second others => exact .cons (StoreFields.same_of_text first second) (ih others)

theorem canonical_of_same (same : request.Same runtime again) :
    canonical runtime request = canonical runtime again := by
  ext document
  rw [canonical_eq_some,canonical_eq_some]
  simp only [storeTexts_of_same same]

/-- The document of a request determines it, up to the order of keys in the configurations. -/
theorem same_of_canonical {document : Json} (one : canonical runtime request = some document)
    (other : canonical runtime again = some document) : request.Same runtime again := by
  obtain ⟨texts,first,rfl⟩ := canonical_eq_some.mp one
  obtain ⟨others,second,same⟩ := canonical_eq_some.mp other
  obtain rfl : texts = others := by simpa using same
  exact same_of_storeTexts first second

end Canonical

section Batches

variable {runtime : Runtime} {db middle after : Database} {tenantId : Uuid} {effectiveFrom : Time}

theorem Onboarded.append {earlier later : List StoreCreate}
    (first : Onboarded db tenantId effectiveFrom earlier middle)
    (second : Onboarded middle tenantId effectiveFrom later after) :
    Onboarded db tenantId effectiveFrom (earlier ++ later) after := by
  obtain ⟨stores,rows,has⟩ := first.stores
  obtain ⟨more,added,hasMore⟩ := second.stores
  refine ⟨⟨second.keeps.constraints,first.keeps.extends_.trans second.keeps.extends_⟩,
    second.settled,second.tenants.trans first.tenants,second.batches.trans first.batches,
    ⟨stores ++ more,?_,List.rel_append (has.imp fun _ _ here => ?_) hasMore⟩,?_,?_⟩
  · rw [added,rows,List.append_assoc]
  · exact here.extends second.keeps.extends_
  · rw [second.zones,first.zones]
    simp
  · have adds := first.adds.append second.adds first.keeps.extends_.nextId
    simpa [serialNumbers] using adds

theorem onboardedStores_spec {requests : List StoreCreate} (held : Constraints db)
    (settled : Settled db) (tenant : db.hasTenant tenantId)
    (done : requests.foldlM (onboardStore tenantId effectiveFrom) db = .ok after) :
    Onboarded db tenantId effectiveFrom requests after := by
  have begins : Onboarded db tenantId effectiveFrom [] db :=
    ⟨⟨held,.refl db⟩,settled,rfl,rfl,⟨[],by simp,.nil⟩,by simp,.none rfl⟩
  refine foldlM_keeps (fun earlier request before next keeps step => ?_) begins done
  exact keeps.append (onboardStore_spec keeps.keeps.constraints keeps.settled
    (keeps.keeps.extends_.hasTenant tenant) step)

def completedBatch (id tenantId : Uuid) (idempotencyKey digest : Text)
    (request : BulkStoreOnboardingRequest) : OnboardingBatch :=
  ⟨id,tenantId,idempotencyKey,digest,.completed,request.stores.length,request.stores.length,0⟩

structure Fulfilled (runtime : Runtime) (db : Database) (tenantId : Uuid) (idempotencyKey : Text)
    (request : BulkStoreOnboardingRequest) (now : Time) (batch : OnboardingBatch)
    (after : Database) : Prop where
  keeps : Keeps db after
  settled : Settled after
  answer : ∃ digest, requestHash runtime request = some digest ∧
    batch = completedBatch db.nextId tenantId idempotencyKey digest request
  tenants : after.tenants = db.tenants
  batches : after.onboardingBatches.rows = db.onboardingBatches.rows ++ [batch]
  stores : ∃ stores, after.stores.rows = db.stores.rows ++ stores ∧
    List.Forall₂ (fun request store => after.Has tenantId now request.toStoreFields store)
      request.stores stores
  zones : after.zones.rows.map Zone.code = db.zones.rows.map Zone.code ++
    request.stores.flatMap fun store => store.zones.map ZoneCreate.code
  adds : db.Adds after (serialNumbers request.stores)

def Database.complete (db : Database) (batchId : Uuid) : Database :=
  { db with
    onboardingBatches := db.onboardingBatches.modify batchId OnboardingBatch.complete
      OnboardingBatch.complete_id }

theorem complete_spec {batch : OnboardingBatch} {rows : List OnboardingBatch}
    (held : Constraints db) (split : db.onboardingBatches.rows = rows ++ [batch])
    (pending : batch.status ≠ .completed) :
    Keeps db (db.complete batch.id) ∧
      (db.complete batch.id).onboardingBatches.rows = rows ++ [batch.complete] := by
  have completed := Table.rows_modify_last split OnboardingBatch.complete
    OnboardingBatch.complete_id
  have extends_ : db.Extends (db.complete batch.id) :=
    { Database.Extends.refl db with
      batches := by
        intro row member final
        rw [split] at member
        rw [Database.complete,completed]
        rcases List.mem_append.mp member with old | last
        · exact List.mem_append_left _ old
        · rw [List.mem_singleton.mp last] at final
          exact absurd final pending }
  refine ⟨⟨?_,extends_⟩,completed⟩
  refine extends_.constraints held { held.indexes with
    batchKeys := Table.indexed_modify held.indexes.batchKeys _ OnboardingBatch.complete_id
      fun _ => rfl } held.forest
    (fun _ => .inl) (fun _ => .inl) (fun _ => .inl) (fun _ => .inl) (fun _ => .inl) ?_
  intro row member
  rw [Database.complete,completed] at member
  rcases List.mem_append.mp member with old | last
  · left
    rw [split]
    exact List.mem_append_left _ old
  · right
    rw [List.mem_singleton.mp last]
    exact extends_.hasTenant (held.batches batch (mem_last split))

/-- A request is answered from its batch, or carried out. -/
theorem onboardStores_spec {idempotencyKey : Text} {request : BulkStoreOnboardingRequest}
    {now : Time} {batch : OnboardingBatch} (held : Constraints db) (settled : Settled db)
    (done : onboardStores runtime db tenantId idempotencyKey request now = .ok (batch,after)) :
    db.hasTenant tenantId ∧
      ((db.onboardingBatches.findBy OnboardingBatch.keyIndex (tenantId,idempotencyKey) =
          some batch ∧ requestHash runtime request = some batch.requestHash ∧ after = db) ∨
        (db.onboardingBatches.findBy OnboardingBatch.keyIndex (tenantId,idempotencyKey) = none ∧
          Fulfilled runtime db tenantId idempotencyKey request now batch after)) := by
  unfold onboardStores at done
  split at done
  · cases done
  · cases done
  rename_i row digest known hashed
  have tenant : db.hasTenant tenantId :=
    ⟨row,Table.mem_of_find? known,Table.key_of_find? known⟩
  refine ⟨tenant,?_⟩
  split at done
  · rename_i existing found
    split at done
    · cases done
    · rename_i agrees
      cases done
      exact .inl ⟨found,hashed.trans (congrArg some (not_not.mp agrees).symm),rfl⟩
  · rename_i unused
    obtain ⟨checked,-,rest⟩ := served_bind.mp done
    obtain ⟨added,inserted,rest⟩ := served_bind.mp rest
    obtain ⟨onboarded,looped,rest⟩ := served_bind.mp rest
    cases rest
    obtain ⟨first,batches,rfl,rows⟩ := addOnboardingBatch_spec held tenant inserted
    have stores := onboardedStores_spec first.constraints ⟨settled.stores,settled.devices⟩
      (first.extends_.hasTenant tenant) looped
    have noDevices : db.Adds { db.drawn with onboardingBatches := batches } [] := .none rfl
    have adds := noDevices.append stores.adds first.extends_.nextId
    have split : onboarded.onboardingBatches.rows = _ :=
      (congrArg Table.rows stores.batches).trans rows
    obtain ⟨last,completed⟩ := complete_spec stores.keeps.constraints split (by simp)
    refine .inr ⟨unused,⟨last.constraints,?_⟩,?_,⟨digest,hashed,rfl⟩,stores.tenants,completed,?_,
      stores.zones,adds⟩
    · exact (first.extends_.trans stores.keeps.extends_).trans last.extends_
    · exact ⟨stores.settled.stores,stores.settled.devices⟩
    · obtain ⟨more,listed,has⟩ := stores.stores
      exact ⟨more,listed,has.imp fun _ _ here => here.extends last.extends_⟩

end Batches

end Abacus.Onboarding

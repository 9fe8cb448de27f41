import Abacus.Model.ItemSessions
import Abacus.Tenant.Steps

/-! What a committed session does to the items, the outbox and the business events.
An item is written under the lock of its row, and an event is added under the lock of its
identifiers; whatever is not locked stays.
-/
set_option autoImplicit false

namespace Abacus

open Relational Transition Transaction

section Views

namespace Inventory

def entriesOf (inventory : Inventory) (epc : Epc) : List TransitionEntry :=
  inventory.entries.filter fun entry => entry.epc = epc

def removalsOf (inventory : Inventory) (epc : Epc) : List BusinessEvent :=
  inventory.businessEvents.select fun event => event.epc = epc

def eventsOf (inventory : Inventory) (sourceSystem externalEventId : String) : List BusinessEvent :=
  inventory.businessEvents.select fun event =>
    event.sourceSystem = sourceSystem ∧ event.externalEventId = externalEventId

structure OnlyItem (epc : Epc) (inventory after : Inventory) : Prop where
  items : ∀ other, other ≠ epc → after.items.find? other = inventory.items.find? other
  entries : ∀ other, other ≠ epc → after.entriesOf other = inventory.entriesOf other
  businessEvents : after.businessEvents = inventory.businessEvents

/-- What an observation leaves alone: other items, and its own one once it is removed. -/
structure Observes (epc : Epc) (inventory after : Inventory) : Prop where
  only : inventory.OnlyItem epc after
  removed : ∀ state, inventory.items.find? epc = some state → state.authoritativeRemoval.isSome →
    after.items.find? epc = some state ∧ after.entriesOf epc = inventory.entriesOf epc

theorem OnlyItem.refl (epc : Epc) (inventory : Inventory) : inventory.OnlyItem epc inventory :=
  ⟨fun _ _ => rfl,fun _ _ => rfl,rfl⟩

theorem Observes.refl (epc : Epc) (inventory : Inventory) : inventory.Observes epc inventory :=
  ⟨.refl epc inventory,fun _ found _ => ⟨found,rfl⟩⟩

theorem OnlyItem.put (inventory : Inventory) (state : CurrentItemState) :
    inventory.OnlyItem state.epc { inventory with items := inventory.items.put state } := by
  refine ⟨?_,fun _ _ => rfl,rfl⟩
  intro other apart
  rw [Table.find?_put,if_neg (Ne.symm apart)]

theorem entriesOf_insert {inventory after : Inventory} {row : InventoryTransitionOutbox}
    (inserted : inventory.transitions.insert row = some after.transitions) (epc : Epc) :
    after.entriesOf epc =
      inventory.entriesOf epc ++ if row.epc = epc then [row.entry] else [] := by
  rw [entriesOf,entries,(Table.insert_eq_some inserted).2,List.map_append,List.filter_append]
  by_cases same : row.epc = epc
  · simp [entriesOf,entries,InventoryTransitionOutbox.entry,same]
  · simp [entriesOf,entries,InventoryTransitionOutbox.entry,same]

end Inventory

theorem recordTransition_onlyItem {registry : Registry} {inventory after : Inventory}
    {next : CurrentItemState} {transitionId : Uuid} {deltas : List InventoryDeltaEvent}
    {createdAt : Time}
    (recorded : recordTransition registry inventory next transitionId deltas createdAt = .ok after) :
    inventory.OnlyItem next.epc after := by
  have spec := recordTransition_spec recorded
  refine ⟨?_,?_,spec.businessEvents⟩
  · intro other apart
    rw [spec.items,Table.find?_put,if_neg (Ne.symm apart)]
  · intro other apart
    rw [Inventory.entriesOf_insert spec.inserted,if_neg (Ne.symm apart),List.append_nil]

/-- The entry that a new version writes is the only one of its number. -/
theorem recordTransition_entry {registry : Registry} {inventory after : Inventory}
    {next : CurrentItemState} {transitionId : Uuid} {deltas : List InventoryDeltaEvent}
    {createdAt : Time}
    (recorded : recordTransition registry inventory next transitionId deltas createdAt = .ok after) :
    ((after.entriesOf next.epc).filter fun entry => entry.stateVersion = next.stateVersion) =
      [⟨transitionId,next.epc,next.stateVersion,deltas.map DeltaPayload.event⟩] := by
  have spec := recordTransition_spec recorded
  have fresh : ((inventory.entriesOf next.epc).filter fun entry =>
      entry.stateVersion = next.stateVersion) = [] := by
    unfold recordTransition at recorded
    split at recorded
    · cases recorded
    · split at recorded
      · cases recorded
      · rename_i unique
        rw [Inventory.entriesOf,List.filter_filter,List.filter_eq_nil_iff]
        intro entry listed chosen
        obtain ⟨row,stored,rfl⟩ := List.mem_map.mp listed
        apply unique
        rw [List.any_eq_true]
        refine ⟨row,stored,?_⟩
        rw [Bool.and_comm]
        exact chosen
  rw [Inventory.entriesOf_insert spec.inserted,List.filter_append,fresh]
  simp [InventoryTransitionOutbox.entry]

end Views

section Commits

/-- What a request that succeeds does to the database, with what it has checked there. -/
inductive ItemStep (platform : Platform) (settings : Settings) (db : Database) :
    ItemRequest → Database → ItemResponse → Prop where
  | repeated {storeId : Uuid} {request : BusinessEventCreate} {clock : Clock} {eventId : Uuid}
      {existing : BusinessEvent} {status : BusinessEventStatus}
      (inTime : request.occurredAt ≤ clock.processor + seconds settings.rfidMaxFutureSkewSeconds)
      (present : (db.registry.stores.find? storeId).isSome)
      (found : findBusinessEvent db.inventory request.sourceSystem request.externalEventId =
        some existing)
      (content : existing.requestFingerprint = request.fingerprint platform storeId) :
      ItemStep platform settings db (.remove storeId request clock eventId) db
        (.accepted ⟨existing,status,false⟩)
  | removed {storeId : Uuid} {request : BusinessEventCreate} {clock : Clock} {eventId : Uuid}
      {state : CurrentItemState} {bucket : Bucket} {event : BusinessEvent}
      {after middle : Inventory}
      (inTime : request.occurredAt ≤ clock.processor + seconds settings.rfidMaxFutureSkewSeconds)
      (present : (db.registry.stores.find? storeId).isSome)
      (unseen : findBusinessEvent db.inventory request.sourceSystem request.externalEventId = none)
      (found : db.inventory.items.find? request.epc = some state)
      (unremoved : state.authoritativeRemoval = none) (occupied : state.bucket? = some bucket)
      (stored : StoredRemoval platform db.registry db.inventory state bucket storeId request eventId
        clock.started event after middle) :
      ItemStep platform settings db (.remove storeId request clock eventId)
        { db with inventory := after } (.accepted ⟨event,.pendingProjection,true⟩)
  | observed {recent : RecentObservationState} {event : RfidObservationEvent} {clock : Clock}
      {quarantineId evidenceId : Uuid} {after : Database} {result : ProcessingResult}
      (registry : after.registry = db.registry)
      (observes : db.inventory.Observes event.epc after.inventory) :
      ItemStep platform settings db (.observe recent event clock quarantineId evidenceId) after
        (.processed result)
  | worked {work : OtherWork} :
      ItemStep platform settings db (.elsewhere work) (work.write db) .worked

def ItemRequest.locks : ItemRequest → List ItemLock
  | .remove _ request _ _ => [.businessEvent request.sourceSystem request.externalEventId]
  | .observe .. => []
  | .elsewhere _ => []

def LockedItems (held : List ItemLock) (db after : Database) : Prop :=
  ∀ epc state, db.inventory.items.find? epc = some state → .item epc ∉ held →
    after.inventory.items.find? epc = some state

/-- A removal is never refused where its event is stored, in time and for a known store. -/
def ItemRequest.Refused (platform : Platform) (settings : Settings) (db : Database) :
    ItemRequest → Prop
  | .remove storeId request clock _ =>
      (db.registry.stores.find? storeId).isSome = false ∨
        clock.processor + seconds settings.rfidMaxFutureSkewSeconds < request.occurredAt ∨
          ∀ existing, findBusinessEvent db.inventory request.sourceSystem request.externalEventId =
            some existing → existing.requestFingerprint ≠ request.fingerprint platform storeId
  | .observe .. => True
  | .elsewhere _ => True

def CommitsItem (platform : Platform) (settings : Settings) (request : ItemRequest)
    (held : List ItemLock) (db after : Database) : Attempt ItemResponse → Prop
  | .error _ => after = db ∧ request.Refused platform settings db
  | .ok response => ItemStep platform settings db request after response ∧
      (∀ lock ∈ request.locks, lock ∈ held) ∧ LockedItems held db after

def AnyDatabase (_ : Database) : Prop := True

theorem keepsAnyDatabase (platform : Platform) (settings : Settings) (request : ItemRequest)
    (held : List ItemLock) (db after : Database) (outcome : Attempt ItemResponse)
    (_ : AnyDatabase db) (_ : CommitsItem platform settings request held db after outcome) :
    AnyDatabase after := trivial

def itemDiscipline (platform : Platform) (settings : Settings) :
    Discipline Database ItemLock (Attempt ItemResponse) ItemRequest where
  Sound := AnyDatabase
  Commits := CommitsItem platform settings
  keeps := keepsAnyDatabase platform settings

end Commits

section Interference

variable {platform : Platform} {settings : Settings} {db after : Database} {request : ItemRequest}
  {response : ItemResponse} {held : List ItemLock}

theorem StoredRemoval.businessEvents {registry : Registry} {inventory after middle : Inventory}
    {item : CurrentItemState} {bucket : Bucket} {storeId : Uuid} {request : BusinessEventCreate}
    {eventId : Uuid} {createdAt : Time} {event : BusinessEvent}
    (stored : StoredRemoval platform registry inventory item bucket storeId request eventId createdAt
      event after middle) :
    after.businessEvents.rows = inventory.businessEvents.rows ++ [event] := by
  rw [(Table.insert_eq_some stored.inserted).2,(recordTransition_spec stored.recorded).businessEvents]

theorem OtherWork.write_entries (work : OtherWork) (db : Database) :
    (work.write db).inventory.entries = db.inventory.entries := by
  simp only [Inventory.entries,OtherWork.write,Table.updateWhere,List.map_map]
  rfl

theorem OtherWork.write_stores (work : OtherWork) (db : Database) (storeId : Uuid) :
    ((work.write db).registry.stores.find? storeId).isSome =
      (db.registry.stores.find? storeId).isSome := by
  rw [OtherWork.write,Table.find?_updateWhere,Option.isSome_map]

theorem ItemStep.stores (step : ItemStep platform settings db request after response)
    (storeId : Uuid) : (after.registry.stores.find? storeId).isSome =
      (db.registry.stores.find? storeId).isSome := by
  cases step with
  | repeated inTime present found content => rfl
  | removed inTime present unseen found unremoved occupied stored => rfl
  | observed registry observes => rw [registry]
  | worked => exact OtherWork.write_stores _ db storeId

/-- Without the lock of its identifiers no event appears, and none disappears. -/
theorem ItemStep.findBusinessEvent (step : ItemStep platform settings db request after response)
    {sourceSystem externalEventId : String}
    (apart : .businessEvent sourceSystem externalEventId ∉ request.locks) :
    Abacus.findBusinessEvent after.inventory sourceSystem externalEventId =
      Abacus.findBusinessEvent db.inventory sourceSystem externalEventId := by
  cases step with
  | repeated inTime present found content => rfl
  | @removed storeId request clock eventId state bucket event after middle inTime present unseen
      found unremoved occupied stored =>
      have other : ¬(event.sourceSystem = sourceSystem ∧
          event.externalEventId = externalEventId) := by
        rw [stored.content]
        rintro ⟨rfl,rfl⟩
        simp [ItemRequest.locks] at apart
      have unmatched : (decide (event.sourceSystem = sourceSystem) &&
          decide (event.externalEventId = externalEventId)) = false := by
        rw [← Bool.decide_and]
        exact decide_eq_false other
      rw [Abacus.findBusinessEvent,stored.businessEvents,List.find?_append,List.find?_singleton,
        unmatched]
      simp [Abacus.findBusinessEvent]
  | observed registry observes =>
      rw [Abacus.findBusinessEvent,observes.only.businessEvents,Abacus.findBusinessEvent]
  | worked => rfl

/-- What a commit of others is: no change, or a step under none of the held locks. -/
theorem item_interferes_cases
    (interferes : (itemDiscipline platform settings).Interferes held db after) :
    after = db ∨ ∃ request response, ItemStep platform settings db request after response ∧
      (∀ lock ∈ held, lock ∉ request.locks) ∧
      ∀ epc state, .item epc ∈ held → db.inventory.items.find? epc = some state →
        after.inventory.items.find? epc = some state := by
  obtain ⟨-,request,others,outcome,apart,commits⟩ := interferes
  cases outcome with
  | error failure => exact .inl commits.1
  | ok response =>
      obtain ⟨step,locked,items⟩ := commits
      exact .inr ⟨request,response,step,fun lock mine theirs => apart lock (locked lock theirs) mine,
        fun epc state mine found => items epc state found fun theirs => apart _ theirs mine⟩

theorem rely_registryStores (rely : (itemDiscipline platform settings).Rely held db after) (storeId : Uuid) :
    (after.registry.stores.find? storeId).isSome = (db.registry.stores.find? storeId).isSome := by
  apply rely.same fun later : Database => (later.registry.stores.find? storeId).isSome
  intro before next interferes
  rcases item_interferes_cases interferes with rfl | ⟨request,response,step,-⟩
  · rfl
  · exact step.stores storeId

theorem rely_findBusinessEvent (rely : (itemDiscipline platform settings).Rely held db after)
    {sourceSystem externalEventId : String}
    (locked : .businessEvent sourceSystem externalEventId ∈ held) :
    Abacus.findBusinessEvent after.inventory sourceSystem externalEventId =
      Abacus.findBusinessEvent db.inventory sourceSystem externalEventId := by
  apply rely.same fun later : Database =>
    Abacus.findBusinessEvent later.inventory sourceSystem externalEventId
  intro before next interferes
  rcases item_interferes_cases interferes with rfl | ⟨request,response,step,apart,-⟩
  · rfl
  · exact step.findBusinessEvent (apart _ locked)

/-- A locked item keeps its row. -/
theorem rely_item (rely : (itemDiscipline platform settings).Rely held db after) {epc : Epc}
    (locked : .item epc ∈ held) {state : CurrentItemState}
    (found : db.inventory.items.find? epc = some state) :
    after.inventory.items.find? epc = some state := by
  have step : ∀ before next, (itemDiscipline platform settings).Interferes held before next →
      before.inventory.items.find? epc = some state →
      next.inventory.items.find? epc = some state := by
    intro before next interferes stored
    rcases item_interferes_cases interferes with rfl | ⟨request,response,step,-,items⟩
    · exact stored
    · exact items epc state locked stored
  exact rely.stable step found

end Interference

end Abacus

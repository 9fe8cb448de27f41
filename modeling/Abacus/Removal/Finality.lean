import Abacus.Model.Sample
import Abacus.Removal.Sessions

/-! Removals are final and idempotent.
An accepted removal marks its item, and nothing writes a marked item again: every later
removal of the item is refused, every later observation leaves its row and its entries alone.
-/
set_option autoImplicit false

namespace Abacus

open Relational Transition Transaction

abbrev ItemSystem := System Database ItemLock (Attempt ItemResponse) ItemRequest

section Invariants

/-- What every commit keeps of stores, business events and removed items. -/
structure Database.KeepsRemovals (db after : Database) : Prop where
  stores : ∀ storeId, (after.registry.stores.find? storeId).isSome =
    (db.registry.stores.find? storeId).isSome
  events : ∀ event ∈ db.inventory.businessEvents.rows, event ∈ after.inventory.businessEvents.rows
  items : ∀ epc state, db.inventory.items.find? epc = some state →
    state.authoritativeRemoval.isSome → after.inventory.items.find? epc = some state
  entries : ∀ epc state, db.inventory.items.find? epc = some state →
    state.authoritativeRemoval.isSome → after.inventory.entriesOf epc = db.inventory.entriesOf epc

structure Inventory.RemovesOnce (inventory : Inventory) : Prop where
  marked : ∀ event ∈ inventory.businessEvents.rows, ∃ state,
    inventory.items.find? event.epc = some state ∧
      state.authoritativeRemoval = some ⟨event.id,event.occurredAt⟩ ∧
        state.stateVersion = event.stateVersion
  once : ∀ epc, (inventory.removalsOf epc).length ≤ 1
  known : ∀ sourceSystem externalEventId,
    (inventory.eventsOf sourceSystem externalEventId).length ≤ 1
  decremented : ∀ event ∈ inventory.businessEvents.rows, ∃ delta : InventoryDeltaEvent,
    ((inventory.entriesOf event.epc).filter fun entry => entry.stateVersion = event.stateVersion) =
        [⟨event.transitionId,event.epc,event.stateVersion,[.event delta]⟩] ∧
      delta.epc = event.epc ∧ delta.quantityDelta = -1

theorem Database.KeepsRemovals.refl (db : Database) : db.KeepsRemovals db :=
  ⟨fun _ => rfl,fun _ => id,fun _ _ found _ => found,fun _ _ _ _ => rfl⟩

theorem Database.KeepsRemovals.trans {first second third : Database}
    (early : first.KeepsRemovals second) (late : second.KeepsRemovals third) :
    first.KeepsRemovals third := by
  constructor
  · exact fun storeId => (late.stores storeId).trans (early.stores storeId)
  · exact fun event stored => late.events event (early.events event stored)
  · intro epc state found removed
    exact late.items epc state (early.items epc state found removed) removed
  · intro epc state found removed
    exact (late.entries epc state (early.items epc state found removed) removed).trans
      (early.entries epc state found removed)

/-- The event of the identifiers is the first of those that have them. -/
theorem findBusinessEvent_eq_head? (inventory : Inventory) (sourceSystem externalEventId : String) :
    findBusinessEvent inventory sourceSystem externalEventId =
      (inventory.eventsOf sourceSystem externalEventId).head? := by
  rw [Inventory.eventsOf,Table.select,List.head?_filter,findBusinessEvent]
  congr 1
  funext event
  rw [Bool.decide_and]

theorem Inventory.mem_eventsOf {inventory : Inventory} {sourceSystem externalEventId : String}
    {event : BusinessEvent} : event ∈ inventory.eventsOf sourceSystem externalEventId ↔
      event ∈ inventory.businessEvents.rows ∧ event.sourceSystem = sourceSystem ∧
        event.externalEventId = externalEventId := by
  rw [eventsOf,Table.mem_select,decide_eq_true_eq]

/-- Where no commit adds an event and removed items stay, the removals stay as they were. -/
theorem Inventory.RemovesOnce.kept {db after : Database} (once : db.inventory.RemovesOnce)
    (keeps : db.KeepsRemovals after)
    (events : after.inventory.businessEvents = db.inventory.businessEvents) :
    after.inventory.RemovesOnce := by
  constructor
  · intro event stored
    rw [events] at stored
    obtain ⟨state,found,removal,version⟩ := once.marked event stored
    exact ⟨state,keeps.items event.epc state found (by rw [removal]; rfl),removal,version⟩
  · intro epc
    rw [removalsOf,events]
    exact once.once epc
  · intro sourceSystem externalEventId
    rw [eventsOf,events]
    exact once.known sourceSystem externalEventId
  · intro event stored
    rw [events] at stored
    obtain ⟨state,found,removal,-⟩ := once.marked event stored
    rw [keeps.entries event.epc state found (by rw [removal]; rfl)]
    exact once.decremented event stored

end Invariants

section Storing

variable {platform : Platform} {registry : Registry} {inventory after middle : Inventory}
  {item : CurrentItemState} {bucket : Bucket} {storeId : Uuid} {request : BusinessEventCreate}
  {eventId : Uuid} {createdAt : Time} {event : BusinessEvent}

theorem unitDecrement : -1 ≤ (-1 : ℤ) ∧ (-1 : ℤ) ≤ 1 := by omega

def removalDelta (platform : Platform) (registry : Registry) (item : CurrentItemState)
    (bucket : Bucket) (occurredAt : Time) : InventoryDeltaEvent :=
  deltaPayload (platform.transitionId registry.tenantId item.epc (item.stateVersion + 1)) item.epc
    bucket (-1) unitDecrement item.confidence occurredAt

theorem StoredRemoval.items (stored : StoredRemoval platform registry inventory item bucket storeId
      request eventId createdAt event after middle) :
    after.items = inventory.items.put (item.remove event.id request.occurredAt) := by
  rw [stored.finished,(recordTransition_spec stored.recorded).items,stored.content]

theorem StoredRemoval.transition (stored : StoredRemoval platform registry inventory item bucket
      storeId request eventId createdAt event after middle) :
    ∃ transition, inventory.transitions.insert transition = some after.transitions ∧
      transition.transitionId = event.transitionId ∧ transition.epc = item.epc ∧
        transition.stateVersion = event.stateVersion ∧
          transition.deltas = [.event (removalDelta platform registry item bucket
            request.occurredAt)] := by
  have inserted := (recordTransition_spec stored.recorded).inserted
  rw [stored.content,stored.finished]
  exact ⟨_,inserted,rfl,rfl,rfl,rfl⟩

theorem StoredRemoval.entry (stored : StoredRemoval platform registry inventory item bucket storeId
      request eventId createdAt event after middle) (keyed : item.epc = request.epc) :
    ((after.entriesOf event.epc).filter fun entry => entry.stateVersion = event.stateVersion) =
      [⟨event.transitionId,event.epc,event.stateVersion,
        [.event (removalDelta platform registry item bucket request.occurredAt)]⟩] := by
  have entry := recordTransition_entry stored.recorded
  rw [stored.finished,stored.content]
  dsimp only
  rw [← keyed]
  exact entry

/-- The stored removal adds one removal of an item that had none. -/
theorem StoredRemoval.removesOnce (stored : StoredRemoval platform registry inventory item bucket
      storeId request eventId createdAt event after middle)
    (unseen : findBusinessEvent inventory request.sourceSystem request.externalEventId = none)
    (found : inventory.items.find? request.epc = some item)
    (unremoved : item.authoritativeRemoval = none) (once : inventory.RemovesOnce) :
    after.RemovesOnce := by
  have keyed : item.epc = request.epc := Table.key_of_find? found
  have epc : event.epc = item.epc := by rw [stored.content]; exact keyed.symm
  have elsewhere : ∀ old ∈ inventory.businessEvents.rows, old.epc ≠ item.epc := by
    intro old known same
    obtain ⟨state,marked,removal,-⟩ := once.marked old known
    rw [same,keyed,found] at marked
    cases marked
    rw [unremoved] at removal
    cases removal
  have rows := stored.businessEvents
  obtain ⟨items,entries⟩ := stored.onlyItem
  constructor
  · intro added member
    rw [rows] at member
    rcases List.mem_append.mp member with old | new
    · rw [items added.epc (elsewhere added old)]
      exact once.marked added old
    · rw [List.mem_singleton.mp new]
      refine ⟨item.remove event.id request.occurredAt,?_,?_,?_⟩
      · rw [stored.items,Table.find?_put,if_pos]
        exact epc.symm
      · rw [stored.content]
        rfl
      · rw [stored.content]
        rfl
  · intro removedEpc
    rw [Inventory.removalsOf,Table.select,rows,List.filter_append,List.length_append]
    by_cases mine : event.epc = removedEpc
    · have none : (inventory.businessEvents.rows.filter fun old => old.epc = removedEpc) = [] := by
        rw [List.filter_eq_nil_iff]
        intro old known same
        exact elsewhere old known ((of_decide_eq_true same).trans (mine.symm.trans epc))
      rw [none,List.length_nil,zero_add]
      exact List.length_filter_le _ [event]
    · have before := once.once removedEpc
      rw [Inventory.removalsOf,Table.select] at before
      simpa [mine] using before
  · intro sourceSystem externalEventId
    rw [Inventory.eventsOf,Table.select,rows,List.filter_append,List.length_append]
    by_cases mine : event.sourceSystem = sourceSystem ∧ event.externalEventId = externalEventId
    · rw [findBusinessEvent_eq_head?,List.head?_eq_none_iff,Inventory.eventsOf,Table.select]
        at unseen
      have source : request.sourceSystem = sourceSystem := by
        rw [← mine.1,stored.content]
      have external : request.externalEventId = externalEventId := by
        rw [← mine.2,stored.content]
      rw [source,external] at unseen
      rw [unseen,List.length_nil,zero_add]
      exact List.length_filter_le _ [event]
    · have before := once.known sourceSystem externalEventId
      rw [Inventory.eventsOf,Table.select] at before
      simpa [mine] using before
  · intro added member
    rw [rows] at member
    rcases List.mem_append.mp member with old | new
    · rw [entries added.epc (elsewhere added old)]
      exact once.decremented added old
    · rw [List.mem_singleton.mp new]
      exact ⟨_,stored.entry keyed,epc.symm,rfl⟩

end Storing

section Steps

variable {platform : Platform} {settings : Settings} {db after : Database} {request : ItemRequest}
  {response : ItemResponse}

theorem ItemStep.keepsRemovals (step : ItemStep platform settings db request after response) :
    db.KeepsRemovals after := by
  refine ⟨step.stores,?_,?_,?_⟩
  · intro event stored
    cases step with
    | repeated inTime present found content => exact stored
    | removed inTime present unseen found unremoved occupied kept =>
        rw [kept.businessEvents]
        exact List.mem_append_left _ stored
    | observed registry observes =>
        rw [observes.only.businessEvents]
        exact stored
    | worked => exact stored
  · intro epc state known removed
    cases step with
    | repeated inTime present found content => exact known
    | removed inTime present unseen found unremoved occupied kept =>
        rw [kept.onlyItem.1]
        · exact known
        · rintro rfl
          rw [Table.key_of_find? found,found] at known
          cases known
          rw [unremoved] at removed
          cases removed
    | @observed recent event _ _ _ _ _ registry observes =>
        by_cases mine : epc = event.epc
        · subst mine
          exact (observes.removed state known removed).1
        · exact (observes.only.items epc mine).trans known
    | worked => exact known
  · intro epc state known removed
    cases step with
    | repeated inTime present found content => rfl
    | removed inTime present unseen found unremoved occupied kept =>
        apply kept.onlyItem.2
        rintro rfl
        rw [Table.key_of_find? found,found] at known
        cases known
        rw [unremoved] at removed
        cases removed
    | @observed recent event _ _ _ _ _ registry observes =>
        by_cases mine : epc = event.epc
        · subst mine
          exact (observes.removed state known removed).2
        · exact observes.only.entries epc mine
    | worked => rw [Inventory.entriesOf,OtherWork.write_entries,Inventory.entriesOf]

theorem ItemStep.removesOnce (step : ItemStep platform settings db request after response)
    (once : db.inventory.RemovesOnce) : after.inventory.RemovesOnce := by
  have keeps := step.keepsRemovals
  cases step with
  | repeated inTime present found content => exact once
  | removed inTime present unseen found unremoved occupied stored =>
      exact stored.removesOnce unseen found unremoved once
  | observed registry observes => exact once.kept keeps observes.only.businessEvents
  | worked => exact once.kept keeps rfl

end Steps

section Runs

structure Database.Removes (db : Database) (request : BusinessEventCreate) (event : BusinessEvent)
    (after : Database) (state : CurrentItemState) (bucket : Bucket)
    (transition : InventoryTransitionOutbox) (delta : InventoryDeltaEvent) : Prop where
  unseen : db.inventory.eventsOf request.sourceSystem request.externalEventId = []
  found : db.inventory.items.find? request.epc = some state
  unremoved : state.authoritativeRemoval = none
  occupied : state.bucket? = some bucket
  events : after.inventory.businessEvents.rows = db.inventory.businessEvents.rows ++ [event]
  transitions : after.inventory.transitions.rows = db.inventory.transitions.rows ++ [transition]
  emits : transition.transitionId = event.transitionId ∧ transition.epc = request.epc ∧
    transition.stateVersion = event.stateVersion ∧ transition.deltas = [.event delta]
  decrement : delta.bucket = bucket ∧ delta.epc = request.epc ∧ delta.quantityDelta = -1
  items : after.inventory.items =
    db.inventory.items.put (state.remove event.id request.occurredAt)

def NoRemovals (db : Database) : Prop := db.inventory.businessEvents = Table.empty

def itemMachine (platform : Platform) (settings : Settings) :
    Machine ItemSystem (Event ItemRequest) :=
  machine (itemService platform settings) NoRemovals

variable {platform : Platform} {settings : Settings} {system middle later after : ItemSystem}
  {event : Event ItemRequest} {events : List (Event ItemRequest)} {id : ℕ} {request : ItemRequest}
  {outcome : Attempt ItemResponse}

theorem NoRemovals.removesOnce {db : Database} (none : NoRemovals db) :
    db.inventory.RemovesOnce := by
  have nothing : db.inventory.businessEvents.rows = [] := by rw [none]; rfl
  constructor
  · intro event stored
    rw [nothing] at stored
    cases stored
  · intro epc
    rw [Inventory.removalsOf,Table.select,nothing]
    exact Nat.zero_le 1
  · intro sourceSystem externalEventId
    rw [Inventory.eventsOf,Table.select,nothing]
    exact Nat.zero_le 1
  · intro event stored
    rw [nothing] at stored
    cases stored

theorem itemMachine_step (reachable : (itemMachine platform settings).Reachable system)
    (taken : (itemMachine platform settings).next system event = some after) :
    after.committed = system.committed ∨ ∃ request response,
      ItemStep platform settings system.committed request after.committed response := by
  rcases (items_verify platform settings).commits (fun _ _ => trivial) reachable taken with
    same | ⟨request,held,outcome,commits⟩
  · exact .inl same
  · cases outcome with
    | error failure => exact .inl commits.1
    | ok response => exact .inr ⟨request,response,commits.1⟩

theorem items_removed_once (reachable : (itemMachine platform settings).Reachable system) :
    system.committed.inventory.RemovesOnce := by
  apply reachable.induct
  · rintro start ⟨none,-⟩
    exact none.removesOnce
  · intro earlier event next reached once taken
    rcases itemMachine_step reached taken with same | ⟨request,response,step⟩
    · rw [same]
      exact once
    · exact step.removesOnce once

theorem items_keep_removals (reachable : (itemMachine platform settings).Reachable system)
    (reached : (itemMachine platform settings).run system events = some after) :
    system.committed.KeepsRemovals after.committed := by
  apply reachable.run_relation (fun first second : ItemSystem =>
    first.committed.KeepsRemovals second.committed) _ _ _ reached
  · exact fun state => .refl state.committed
  · exact fun first second third early late => early.trans late
  · intro state event next earlier taken
    rcases itemMachine_step earlier taken with same | ⟨request,response,step⟩
    · rw [same]
      exact .refl state.committed
    · exact step.keepsRemovals

/-- What a session that ends has done. -/
theorem itemMachine_ends (reachable : (itemMachine platform settings).Reachable system)
    (ending : system.ending id = some (request,outcome))
    (taken : (itemMachine platform settings).next system (.step id) = some after) :
    ∃ held, CommitsItem platform settings request held system.committed after.committed outcome :=
  (items_verify platform settings).ends (fun _ _ => trivial) reachable ending taken

section Submissions

variable {storeId eventId : Uuid} {create : BusinessEventCreate} {clock : Clock}
  {held : List ItemLock} {db written : Database} {response : ItemResponse}

theorem eq_singleton_of_mem {Element : Type} {elements : List Element} {element : Element}
    (member : element ∈ elements) (single : elements.length ≤ 1) : elements = [element] := by
  obtain ⟨before,later,rfl⟩ := List.append_of_mem member
  simp only [List.length_append,List.length_cons] at single
  have noneBefore : before = [] := List.eq_nil_of_length_eq_zero (by omega)
  have noneLater : later = [] := List.eq_nil_of_length_eq_zero (by omega)
  rw [noneBefore,noneLater]
  rfl

/-- What an accepted submission has found or written. -/
structure Accepts (platform : Platform) (settings : Settings) (storeId : Uuid)
    (create : BusinessEventCreate) (clock : Clock) (db written : Database)
    (answer : AcceptedBusinessEvent) : Prop where
  inTime : create.occurredAt ≤ clock.processor + seconds settings.rfidMaxFutureSkewSeconds
  present : (written.registry.stores.find? storeId).isSome
  content : answer.event.requestFingerprint = create.fingerprint platform storeId
  stored : answer.event ∈
    written.inventory.eventsOf create.sourceSystem create.externalEventId
  repeated : answer.created = false → written = db
  removed : answer.created = true → ∃ state bucket transition delta,
    db.Removes create answer.event written state bucket transition delta

theorem CommitsItem.accepts
    (commits : CommitsItem platform settings (.remove storeId create clock eventId) held db written
      (.ok response)) :
    ∃ answer, response = .accepted answer ∧
      Accepts platform settings storeId create clock db written answer := by
  obtain ⟨step,-,-⟩ := commits
  cases step with
  | @repeated _ _ _ _ existing status inTime present found content =>
      refine ⟨_,rfl,⟨inTime,present,content,?_,fun _ => rfl,fun created => (by cases created)⟩⟩
      rw [findBusinessEvent_eq_head?] at found
      exact List.mem_of_head? found
  | @removed _ _ _ _ state bucket event after middle inTime present unseen found unremoved occupied
      stored =>
      have keyed : state.epc = create.epc := Table.key_of_find? found
      obtain ⟨transition,inserted,transitionId,epc,version,deltas⟩ := stored.transition
      have identified : event.sourceSystem = create.sourceSystem ∧
          event.externalEventId = create.externalEventId := by
        rw [stored.content]
        exact ⟨rfl,rfl⟩
      refine ⟨_,rfl,⟨inTime,present,by rw [stored.content],?_,fun repeated => (by cases repeated),
        fun _ => ⟨state,bucket,transition,removalDelta platform db.registry state bucket
          create.occurredAt,?_⟩⟩⟩
      · refine Inventory.mem_eventsOf.mpr ⟨?_,identified⟩
        dsimp only
        rw [stored.businessEvents]
        exact List.mem_append_right _ (List.mem_singleton_self event)
      · constructor
        · rw [findBusinessEvent_eq_head?,List.head?_eq_none_iff] at unseen
          exact unseen
        · exact found
        · exact unremoved
        · exact occupied
        · exact stored.businessEvents
        · exact (Table.insert_eq_some inserted).2
        · exact ⟨transitionId,epc.trans keyed,version,deltas⟩
        · exact ⟨rfl,keyed,rfl⟩
        · exact stored.items

/-- The same content again: the first event, and no write. -/
theorem CommitsItem.repeats {first : BusinessEvent} {outcome : Attempt ItemResponse}
    (commits : CommitsItem platform settings (.remove storeId create clock eventId) held db written
      outcome)
    (inTime : create.occurredAt ≤ clock.processor + seconds settings.rfidMaxFutureSkewSeconds)
    (present : (db.registry.stores.find? storeId).isSome)
    (known : db.inventory.eventsOf create.sourceSystem create.externalEventId = [first])
    (content : first.requestFingerprint = create.fingerprint platform storeId) :
    (∃ status, outcome = .ok (.accepted ⟨first,status,false⟩)) ∧ written = db := by
  have found : findBusinessEvent db.inventory create.sourceSystem create.externalEventId =
      some first := by
    rw [findBusinessEvent_eq_head?,known]
    rfl
  cases outcome with
  | error failure =>
      obtain ⟨-,absent | late | conflict⟩ := commits
      · rw [present] at absent
        cases absent
      · exact absurd inTime (not_le_of_gt late)
      · exact absurd content (conflict first found)
  | ok response =>
      obtain ⟨step,-,-⟩ := commits
      cases step with
      | @repeated _ _ _ _ existing status _ _ stored _ =>
          rw [found] at stored
          cases stored
          exact ⟨⟨status,rfl⟩,rfl⟩
      | removed _ _ unseen _ _ _ _ =>
          rw [found] at unseen
          cases unseen

end Submissions

/-- Every submission that ends, in any interleaving: refused it writes nothing; accepted it has the
one event of its identifiers, and a new event comes with the one transition that takes the item out
of its bucket; sent again later it gets that event and writes nothing. In every run from there each
item is removed at most once, and a removed item keeps its row and its entries. -/
theorem removal_is_final {storeId eventId : Uuid} {create : BusinessEventCreate} {clock : Clock}
    (reachable : (itemMachine platform settings).Reachable system)
    (ending : system.ending id = some (.remove storeId create clock eventId,outcome))
    (taken : (itemMachine platform settings).next system (.step id) = some middle)
    (reached : (itemMachine platform settings).run middle events = some later) :
    later.committed.inventory.RemovesOnce ∧ middle.committed.KeepsRemovals later.committed ∧
      (∀ failure, outcome = .error failure → middle.committed = system.committed) ∧
      ∀ response, outcome = .ok response → ∃ answer, response = .accepted answer ∧
        later.committed.inventory.eventsOf create.sourceSystem create.externalEventId =
          [answer.event] ∧
        (answer.created = false → middle.committed = system.committed) ∧
        (answer.created = true → ∃ state bucket transition delta,
          system.committed.Removes create answer.event middle.committed state bucket transition
            delta) ∧
        ∀ again laterClock freshId result after, clock.processor ≤ laterClock.processor →
          later.ending again = some (.remove storeId create laterClock freshId,result) →
          (itemMachine platform settings).next later (.step again) = some after →
          (∃ status, result = .ok (.accepted ⟨answer.event,status,false⟩)) ∧
            after.committed = later.committed := by
  have toMiddle := reachable.step taken
  have toLater := toMiddle.after reached
  have once := items_removed_once toLater
  have keeps := items_keep_removals toMiddle reached
  obtain ⟨held,commits⟩ := itemMachine_ends reachable ending taken
  refine ⟨once,keeps,?_,?_⟩
  · rintro failure rfl
    exact commits.1
  · rintro response rfl
    obtain ⟨answer,rfl,accepts⟩ := commits.accepts
    obtain ⟨stored,source,external⟩ := Inventory.mem_eventsOf.mp accepts.stored
    have known : later.committed.inventory.eventsOf create.sourceSystem create.externalEventId =
        [answer.event] := by
      apply eq_singleton_of_mem
      · exact Inventory.mem_eventsOf.mpr ⟨keeps.events _ stored,source,external⟩
      · exact once.known create.sourceSystem create.externalEventId
    refine ⟨answer,rfl,known,accepts.repeated,accepts.removed,?_⟩
    intro again laterClock freshId result after laterThan endsAgain takenAgain
    obtain ⟨locks,resubmitted⟩ := itemMachine_ends toLater endsAgain takenAgain
    apply resubmitted.repeats _ _ known accepts.content
    · exact accepts.inTime.trans (Int.add_le_add_right laterThan _)
    · rw [keeps.stores]
      exact accepts.present

end Runs

namespace Sample

def sale : BusinessEventCreate := ⟨"pos","receipt-1",.sale,tag,6000000,7200,none⟩

def twoReads : Database :=
  accept (accept database backroomReader "a" 0 100) floorReader "b" 5000000 101

def itemStart : ItemSystem := ⟨twoReads,Table.empty⟩

def submit (now : Time) (eventId : Uuid) : ItemRequest := .remove storeId sale (clock now) eventId

/-- The tag was seen in the backroom. A read of it on the floor has found its row, a first sale has
locked it, and the same sale waits for the identifiers. -/
def busySale : List (Event ItemRequest) :=
  [.start 1 (.observe emptyRecent (read backroomReader backroomId "a" 0 100) (clock 1000000) 500
    600)] ++ List.replicate 5 (.step 1) ++
  [.start 2 (.observe emptyRecent (read floorReader floorId "b" 5000000 101) (clock 6000000) 501
    601),.start 3 (submit 6000000 900),.start 4 (submit 7000000 901)] ++
    List.replicate 3 (.step 2) ++ [.step 4] ++ List.replicate 6 (.step 3)

/-- The sale commits, then the read, and the second sale is about to end. -/
def afterSale : List (Event ItemRequest) := List.replicate 3 (.step 2) ++ List.replicate 3 (.step 4)

def itemRun (events : List (Event ItemRequest)) : ItemSystem :=
  ((itemMachine platform settings).run itemStart events).getD itemStart

theorem itemRun_reached {events : List (Event ItemRequest)}
    (runs : ((itemMachine platform settings).run itemStart events).isSome = true) :
    (itemMachine platform settings).run itemStart events = some (itemRun events) :=
  Machine.run_getD runs

theorem itemStart_initial : (itemMachine platform settings).initial itemStart := by
  have none : twoReads.inventory.businessEvents.rows = [] := by decide +kernel
  exact ⟨Table.ext none,rfl⟩

theorem retried_runs : ((itemMachine platform settings).run itemStart
    (busySale ++ [.step 3] ++ afterSale ++ [.step 4])).isSome = true := by decide +kernel

theorem retry_runs : ((itemMachine platform settings).run itemStart
    (busySale ++ [.step 3] ++ afterSale)).isSome = true := Machine.run_isSome_of_append retried_runs

theorem sold_runs :
    ((itemMachine platform settings).run itemStart (busySale ++ [.step 3])).isSome = true :=
  Machine.run_isSome_of_append retry_runs

theorem busySale_runs :
    ((itemMachine platform settings).run itemStart busySale).isSome = true :=
  Machine.run_isSome_of_append sold_runs

theorem sale_ends : ∃ answer, (itemRun busySale).ending 3 =
    some (submit 6000000 900,.ok (.accepted answer)) := ⟨_,rfl⟩

theorem retry_ends : ∃ result, (itemRun (busySale ++ [.step 3] ++ afterSale)).ending 4 =
    some (submit 7000000 901,result) := ⟨_,rfl⟩

end Sample

theorem removal_is_final_sample :
    (Sample.itemRun (Sample.busySale ++ [.step 3] ++
        Sample.afterSale)).committed.inventory.RemovesOnce ∧
      (Sample.itemRun (Sample.busySale ++ [.step 3])).committed.KeepsRemovals
        (Sample.itemRun (Sample.busySale ++ [.step 3] ++ Sample.afterSale)).committed ∧
      ∃ answer status,
        (Sample.itemRun Sample.busySale).ending 3 =
          some (Sample.submit 6000000 900,.ok (.accepted answer)) ∧
        (Sample.itemRun (Sample.busySale ++ [.step 3] ++ Sample.afterSale)).ending 4 =
          some (Sample.submit 7000000 901,.ok (.accepted ⟨answer.event,status,false⟩)) ∧
        (Sample.itemRun (Sample.busySale ++ [.step 3] ++ Sample.afterSale ++
          [.step 4])).committed =
            (Sample.itemRun (Sample.busySale ++ [.step 3] ++ Sample.afterSale)).committed := by
  obtain ⟨answer,ends⟩ := Sample.sale_ends
  obtain ⟨result,again⟩ := Sample.retry_ends
  have reached := Sample.itemRun_reached Sample.busySale_runs
  have sold := Sample.itemRun_reached Sample.sold_runs
  have retry := Sample.itemRun_reached Sample.retry_runs
  have retried := Sample.itemRun_reached Sample.retried_runs
  obtain ⟨once,keeps,-,accepted⟩ := removal_is_final
    ⟨_,_,Sample.itemStart_initial,reached⟩ ends
    (Machine.next_of_run reached sold) (Machine.run_of_append sold retry)
  obtain ⟨first,same,-,-,-,repeats⟩ := accepted _ rfl
  cases same
  obtain ⟨⟨status,rfl⟩,unwritten⟩ := repeats 4 (Sample.clock 7000000) 901 result _ (by decide) again
    (Machine.next_of_run retry retried)
  exact ⟨once,keeps,answer,status,ends,again,unwritten⟩

end Abacus

import Abacus.Inventory.NonNegative
import Abacus.Tenant.Steps

/-! Event time and versions of an item only grow. What is older than the item's watermark leaves
the inventory alone, so the moves of an item are recorded in the order of their event times.
-/
set_option autoImplicit false

namespace Abacus

open Relational (Table)
open Transition (Machine)

section Journal

/-- The moves of an item are in the order of their event times, none after what the item's row has
seen. Only a removal may be later: it is the last move of its item. -/
structure Inventory.Timed (inventory : Inventory) : Prop where
  bounded : ∀ row ∈ inventory.transitions.rows, ∀ delta ∈ row.events,
    ∃ item, inventory.items.find? row.epc = some item ∧
      (delta.observedAt ≤ item.lastObservedAt ∨ item.authoritativeRemoval.isSome = true)
  ordered : ∀ first ∈ inventory.transitions.rows, ∀ second ∈ inventory.transitions.rows,
    first.epc = second.epc → first.stateVersion ≤ second.stateVersion →
    ∀ before ∈ first.events, ∀ after ∈ second.events, before.observedAt ≤ after.observedAt

theorem Inventory.empty_timed : Inventory.empty.Timed where
  bounded _ member := by cases member
  ordered _ member := by cases member

variable {registry : Registry} {inventory after : Inventory}

theorem Inventory.Timed.settle (timed : inventory.Timed) (settles : inventory.Settles after) :
    after.Timed := by
  refine ⟨?_,?_⟩
  · intro row member delta event
    obtain ⟨old,stored,same⟩ := settles.row member
    rw [← events_of_entry same] at event
    obtain ⟨item,found,bound⟩ := timed.bounded old stored delta event
    have epc : old.epc = row.epc := congrArg TransitionEntry.epc same
    rw [settles.items,← epc]
    exact ⟨item,found,bound⟩
  · intro first firstMember second secondMember epc version before beforeEvent later laterEvent
    obtain ⟨left,leftStored,leftSame⟩ := settles.row firstMember
    obtain ⟨right,rightStored,rightSame⟩ := settles.row secondMember
    rw [← events_of_entry leftSame] at beforeEvent
    rw [← events_of_entry rightSame] at laterEvent
    simp only [InventoryTransitionOutbox.entry,TransitionEntry.mk.injEq] at leftSame rightSame
    apply timed.ordered left leftStored right rightStored _ _ before beforeEvent later laterEvent
    · rw [leftSame.2.1,rightSame.2.1,epc]
    · rw [leftSame.2.2.1,rightSame.2.2.1]
      exact version

theorem Inventory.Timed.refresh (timed : inventory.Timed) {old new : CurrentItemState}
    (found : inventory.items.find? old.epc = some old) (same : old.SameItem new)
    (later : old.lastObservedAt ≤ new.lastObservedAt) :
    ({ inventory with items := inventory.items.put new } : Inventory).Timed := by
  refine ⟨?_,timed.ordered⟩
  intro row member delta event
  obtain ⟨item,stored,bound⟩ := timed.bounded row member delta event
  simp only [Table.find?_put]
  by_cases own : new.epc = row.epc
  · rw [if_pos own]
    rw [← own,same.epc,found] at stored
    cases stored
    refine ⟨new,rfl,?_⟩
    rw [same.removal]
    exact bound.imp_left fun bound => bound.trans later
  · rw [if_neg own]
    exact ⟨item,stored,bound⟩

/-- Recording a move that is not older than the item. -/
theorem Inventory.Timed.record (timed : inventory.Timed) (coherent : inventory.Coherent registry)
    {next : CurrentItemState} {transitionId : Uuid} {source target : Option Bucket}
    {confidence : Confidence} {observedAt createdAt : Time}
    (recorded : recordTransition registry inventory next transitionId
      (moveDeltas transitionId next.epc source target confidence observedAt) createdAt = .ok after)
    (version : next.stateVersion = inventory.version next.epc + 1)
    (present : ∀ item ∈ inventory.items.find? next.epc, item.authoritativeRemoval = none ∧
      item.lastObservedAt ≤ observedAt ∧ item.lastObservedAt ≤ next.lastObservedAt)
    (reached : observedAt ≤ next.lastObservedAt ∨ next.authoritativeRemoval.isSome = true) :
    after.Timed := by
  have spec := recordTransition_spec recorded
  have dated : ∀ delta ∈ ((moveDeltas transitionId next.epc source target confidence observedAt).map
      DeltaPayload.event).filterMap DeltaPayload.event?, delta.observedAt = observedAt := by
    intro delta event
    rw [events_of_map,mem_moveDeltas] at event
    rcases event with ⟨bucket,-,rfl⟩ | ⟨bucket,-,rfl⟩ <;> rfl
  -- The item had seen everything that was recorded of it.
  have earlier : ∀ row ∈ inventory.transitions.rows, row.epc = next.epc → ∀ delta ∈ row.events,
      delta.observedAt ≤ observedAt ∧ delta.observedAt ≤ next.lastObservedAt := by
    intro row member epc delta event
    obtain ⟨item,found,bound⟩ := timed.bounded row member delta event
    rw [epc] at found
    obtain ⟨unremoved,behind,seen⟩ := present item found
    simp only [unremoved,Option.isSome_none,Bool.false_eq_true,or_false] at bound
    exact ⟨bound.trans behind,bound.trans seen⟩
  refine ⟨?_,?_⟩
  · intro row member delta event
    rw [spec.items]
    rcases (Table.mem_insert spec.inserted).mp member with stored | rfl
    · rw [Table.find?_put]
      by_cases own : next.epc = row.epc
      · rw [if_pos own]
        exact ⟨next,rfl,.inl (earlier row stored own.symm delta event).2⟩
      · rw [if_neg own]
        exact timed.bounded row stored delta event
    · rw [Table.find?_put,if_pos rfl]
      refine ⟨next,rfl,?_⟩
      rw [dated delta event]
      exact reached
  · intro first firstMember second secondMember epc ordered before beforeEvent later laterEvent
    rcases (Table.mem_insert spec.inserted).mp firstMember with firstOld | rfl
    · rcases (Table.mem_insert spec.inserted).mp secondMember with secondOld | rfl
      · exact timed.ordered first firstOld second secondOld epc ordered before beforeEvent later
          laterEvent
      · rw [dated later laterEvent]
        exact (earlier first firstOld epc before beforeEvent).1
    · rw [dated before beforeEvent]
      rcases (Table.mem_insert spec.inserted).mp secondMember with secondOld | rfl
      · have behind := coherent.toJournaled.version_le secondOld
        simp only at epc ordered
        rw [← epc] at behind
        omega
      · rw [dated later laterEvent]

end Journal

section Steps

variable {platform : Platform} {settings : Settings} {state : TenantState}

structure Inventory.Ages (inventory after : Inventory) : Prop where
  items : ∀ epc item, inventory.items.find? epc = some item →
    ∃ later, after.items.find? epc = some later ∧ item.lastObservedAt ≤ later.lastObservedAt ∧
      item.stateVersion ≤ later.stateVersion
  entries : inventory.entries <+: after.entries

theorem Inventory.Ages.refl (inventory : Inventory) : inventory.Ages inventory where
  items _ item found := ⟨item,found,le_rfl,le_rfl⟩
  entries := List.prefix_refl _

theorem Inventory.Ages.trans {first second third : Inventory} (left : first.Ages second)
    (right : second.Ages third) : first.Ages third where
  items epc item found := by
    obtain ⟨middle,there,time,version⟩ := left.items epc item found
    obtain ⟨last,here,time',version'⟩ := right.items epc middle there
    exact ⟨last,here,time.trans time',version.trans version'⟩
  entries := left.entries.trans right.entries

theorem Inventory.Ages.put {inventory after : Inventory} {next : CurrentItemState}
    (items : after.items = inventory.items.put next)
    (grows : ∀ item ∈ inventory.items.find? next.epc, item.lastObservedAt ≤ next.lastObservedAt ∧
      item.stateVersion ≤ next.stateVersion)
    (entries : inventory.entries <+: after.entries) : inventory.Ages after := by
  refine ⟨?_,entries⟩
  intro epc item found
  rw [items,Table.find?_put]
  by_cases own : next.epc = epc
  · rw [if_pos own]
    subst own
    exact ⟨next,rfl,grows item found⟩
  · rw [if_neg own]
    exact ⟨item,found,le_rfl,le_rfl⟩

theorem Recorded.entries {registry : Registry} {inventory after : Inventory}
    {next : CurrentItemState} {row : InventoryTransitionOutbox}
    (recorded : Recorded registry inventory after next row) : inventory.entries <+: after.entries := by
  rw [Inventory.entries,Inventory.entries,(Table.insert_eq_some recorded.inserted).2,List.map_append]
  exact List.prefix_append ..

/-- A counted observation is not behind the item's row. -/
theorem Database.Counts.reaches {db : Database} {event : RfidObservationEvent}
    (counts : db.Counts event) {item : CurrentItemState}
    (found : db.inventory.items.find? event.epc = some item) :
    item.lastObservedAt ≤ event.observedAt := by
  obtain ⟨watermark,known,behind⟩ := Database.watermark_ge found
  exact behind.trans (counts.timely watermark known)

/-- A removable item is not removed, and the removal is not behind its row. -/
theorem removableBucket_reaches {ingress : Ingress} {item : CurrentItemState} {storeId : Uuid}
    {occurredAt : Time} {bucket : Bucket}
    (removable : removableBucket ingress item storeId occurredAt = .ok bucket) :
    item.authoritativeRemoval = none ∧ item.lastObservedAt ≤ occurredAt := by
  unfold removableBucket at removable
  split at removable
  · cases removable
  · rename_i unremoved
    split at removable
    · cases removable
    · split at removable
      · cases removable
      · split at removable
        · cases removable
        · rename_i timely
          refine ⟨by simpa using unremoved,?_⟩
          unfold durableWatermark at timely
          cases processed : processedObservationWatermark ingress item.epc with
          | none => simpa [processed] using timely
          | some watermark =>
              simp only [processed,Option.any_some,decide_eq_true_eq,not_lt] at timely
              exact (le_max_right _ _).trans timely

theorem TenantState.ItemStep.ages {after : Inventory}
    (step : state.ItemStep platform settings after) : state.database.inventory.Ages after := by
  cases step with
  | settled _ settles =>
      refine ⟨?_,?_⟩
      · rw [settles.items]
        exact (Inventory.Ages.refl _).items
      · rw [settles.entries]
  | refreshed old new found present same later =>
      refine .put rfl ?_ (List.prefix_refl _)
      rw [same.epc,found]
      intro item member
      cases member
      exact ⟨later,same.version.ge⟩
  | moved event skuId decision createdAt evidenceId _ replenishment counts timely performed =>
      have recorded := recordTransition_spec (moveItem_recorded performed)
      refine .put recorded.items ?_ recorded.entries
      intro item found
      have known : state.database.inventory.items.find? event.epc = some item := found
      refine ⟨(counts.reaches known).trans (le_max_left _ _),?_⟩
      simp [movedState,known]
  | removed storeId request createdAt eventId item bucket event _ middle unseen found removable
      stored =>
      have recorded := recordTransition_spec stored.recorded
      have keyed : item.epc = request.epc := Table.key_of_find? found
      rw [stored.finished]
      refine .put recorded.items ?_ recorded.entries
      intro other there
      have known : state.database.inventory.items.find? item.epc = some other := there
      rw [keyed,found] at known
      cases known
      exact ⟨le_rfl,Nat.le_succ _⟩

theorem TenantState.ItemStep.timed {after : Inventory}
    (step : state.ItemStep platform settings after) (timed : state.database.inventory.Timed)
    (coherent : state.database.inventory.Coherent state.database.registry) : after.Timed := by
  cases step with
  | settled _ settles => exact timed.settle settles
  | refreshed old new found present same later => exact timed.refresh found same later
  | moved event skuId decision createdAt evidenceId _ replenishment counts timely performed =>
      refine timed.record coherent (moveItem_recorded performed) rfl ?_ (.inl (le_max_right _ _))
      intro item found
      have known : state.database.inventory.items.find? event.epc = some item := found
      obtain ⟨watermark,present,behind⟩ := Database.watermark_ge known
      exact ⟨counts.present item known,behind.trans (timely watermark present),
        (counts.reaches known).trans (le_max_left _ _)⟩
  | removed storeId request createdAt eventId item bucket event _ middle unseen found removable
      stored =>
      have keyed : item.epc = request.epc := Table.key_of_find? found
      obtain ⟨unremoved,behind⟩ := removableBucket_reaches removable
      have kept : middle.Timed := by
        refine timed.record coherent stored.recorded ?_ ?_ (.inr rfl)
        · simp [CurrentItemState.remove,Inventory.version,keyed,found]
        · intro other there
          have known : state.database.inventory.items.find? item.epc = some other := there
          rw [keyed,found] at known
          cases known
          exact ⟨unremoved,behind,le_rfl⟩
      rw [stored.finished]
      exact ⟨kept.bounded,kept.ordered⟩

theorem tenant_timed (reachable : (tenant platform settings).Reachable state) :
    state.database.inventory.Timed := by
  have started : ∀ state : TenantState, state.Starts → state.database.inventory.Timed :=
    fun state starts => starts.inventory ▸ Inventory.empty_timed
  refine reachable.induct started ?_
  intro state event after reached timed taken
  cases taken
  exact (TenantState.next_items reached event).timed timed (tenant_coherent reached)

theorem tenant_ages {finish : TenantState} {events : List TenantEvent}
    (reachable : (tenant platform settings).Reachable state)
    (reached : (tenant platform settings).run state events = some finish) :
    state.database.inventory.Ages finish.database.inventory := by
  refine reachable.run_relation
    (fun state after => state.database.inventory.Ages after.database.inventory) (fun _ => .refl _)
    (fun _ _ _ => .trans) ?_ reached
  intro state event after reached taken
  cases taken
  exact (TenantState.next_items reached event).ages

/-- An attempt at an observation that is behind the item's watermark leaves the inventory alone. -/
theorem TenantState.Attempts.late {event : RfidObservationEvent} {clock : Clock}
    {quarantineId evidenceId : Uuid} {middle : Database} {memory : RecentObservationState}
    {watermark : Time}
    (attempts : state.Attempts platform settings event clock quarantineId evidenceId middle memory)
    (known : state.database.watermark event.epc = some watermark)
    (late : event.observedAt < watermark) :
    middle.inventory = state.database.inventory := by
  cases attempts.attempted with
  | duplicate | rejected => rfl
  | located assignment connectivity binding evidenceStart effect ingress heard bound verdict
      finalized =>
      cases verdict with
      | ignored result => rfl
      | unseen result counts absent => rfl
      | refreshed result old new counts found same later =>
          exact absurd (counts.timely watermark known) (not_le.mpr late)
      | moved decision inventory replenishment counts inferred timely apart performed =>
          exact absurd (counts.timely watermark known) (not_le.mpr late)

/-- Event time never runs backwards for an item, over any run of the tenant from any reachable
state. -/
theorem event_time_monotone (platform : Platform) (settings : Settings) {state finish : TenantState}
    {events : List TenantEvent} (reachable : (tenant platform settings).Reachable state)
    (reached : (tenant platform settings).run state events = some finish) :
    (∀ epc item, state.database.inventory.items.find? epc = some item →
      ∃ later, finish.database.inventory.items.find? epc = some later ∧
        item.lastObservedAt ≤ later.lastObservedAt ∧ item.stateVersion ≤ later.stateVersion) ∧
    (∀ row event watermark clock quarantineId evidenceId,
      finish.database.ingress.outbox.find? event.eventId = some row → row.payload = .event event →
      finish.database.watermark event.epc = some watermark → event.observedAt < watermark →
      (finish.next platform settings (.handle event.eventId clock quarantineId
        evidenceId)).database.inventory = finish.database.inventory) ∧
    state.database.inventory.entries <+: finish.database.inventory.entries ∧
    (∀ first ∈ finish.database.inventory.transitions.rows,
      ∀ second ∈ finish.database.inventory.transitions.rows,
        first.epc = second.epc → first.stateVersion ≤ second.stateVersion →
        ∀ before ∈ first.events, ∀ after ∈ second.events,
          before.observedAt ≤ after.observedAt) := by
  have ages := tenant_ages reachable reached
  have arrives := reachable.after reached
  refine ⟨ages.items,?_,ages.entries,(tenant_timed arrives).ordered⟩
  intro row event watermark clock quarantineId evidenceId queued payload known late
  rcases RawState.handle_attempts platform settings (tenant_sound arrives) event.eventId clock
    quarantineId evidenceId with same | ⟨other,middle,memory,addressed,attempts,same⟩
  · simp only [TenantState.next,TenantState.handle,same]
  · simp only [TenantState.next,TenantState.handle,same,Database.publishRaw]
    obtain ⟨found,unpublished,content⟩ := attempts.queued
    rw [addressed] at unpublished
    obtain ⟨located,-⟩ := Option.filter_eq_some_iff.mp unpublished
    rw [queued] at located
    cases located
    rw [payload] at content
    cases content
    exact attempts.late known late

namespace Sample

/-- The tag is in the backroom, then on the floor, and an older read of the backroom is accepted. -/
def visits : List TenantEvent :=
  sees backroomReader "a" 1000000 100 ++ sees floorReader "b" 20000000 101 ++
    [.accept ⟨backroomReader,.active⟩ (batch backroomReader "c" 5000000) 21000000 102]

def lateRead : RfidObservationEvent :=
  { read backroomReader backroomId "c" 5000000 102 with receivedAt := 21000000 }

end Sample

theorem event_time_monotone_sample :
    (Sample.tenantRun Sample.visits).database.inventory.transitions.rows.length = 2 ∧
    ((Sample.tenantRun Sample.visits).next Sample.platform Sample.settings
      (.handle "c" (Sample.clock 22000000) 500 501)).database.inventory =
        (Sample.tenantRun Sample.visits).database.inventory :=
  ⟨by decide +kernel,
    (event_time_monotone Sample.platform Sample.settings Sample.tenantStart_reachable
      (Sample.tenantRun_reached Sample.visits)).2.1 _ Sample.lateRead 20000000 (Sample.clock 22000000) 500 501
        rfl rfl (by decide +kernel) (by decide)⟩

end Steps

end Abacus

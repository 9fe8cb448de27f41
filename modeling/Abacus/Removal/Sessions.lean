import Abacus.Removal.Steps
import Abacus.Tenant.EventTime

/-! Removal and observation sessions keep the discipline of `ItemStep`.
A removal knows, under its two locks, that its event is unseen and its item unremoved until
it commits; an observation moves the row that it has locked, or a new one.
-/
set_option autoImplicit false

namespace Abacus

open Relational Transition Transaction

section Observing

variable {platform : Platform} {settings : Settings} {db : Database} {event : RfidObservationEvent}
  {recent : RecentObservationState} {clock : Clock} {evidenceId : Uuid}
  {state : Option CurrentItemState} {effect : Effect}

/-- The decision writes the observed item only, and nothing of an unknown item that it does not
move. -/
theorem decideLocation_onlyItem {skuId : Uuid} {watermark : Option Time}
    {window : List RfidObservationEvent}
    (keyed : ∀ found, state = some found → found.epc = event.epc)
    (decided : decideLocation platform settings db event skuId state watermark window recent clock
      evidenceId = .ok effect) :
    db.inventory.OnlyItem event.epc effect.inventory ∧
      (state = none → effect.result.stateChanged = false → effect.inventory = db.inventory) := by
  have keep : ∀ refresh : CurrentItemState → CurrentItemState,
      (∀ state : CurrentItemState, state.SameItem (refresh state)) →
      db.inventory.OnlyItem event.epc { db.inventory with
        items := state.elim db.inventory.items fun state => db.inventory.items.put (refresh state) } ∧
      (state = none → { db.inventory with
        items := state.elim db.inventory.items fun state => db.inventory.items.put (refresh state) } =
          db.inventory) := by
    intro refresh same
    cases state with
    | none => exact ⟨.refl _ _,fun _ => rfl⟩
    | some found =>
        have epc : (refresh found).epc = event.epc := (same found).epc.trans (keyed found rfl)
        have put := Inventory.OnlyItem.put db.inventory (refresh found)
        rw [epc] at put
        exact ⟨put,fun absent => (by cases absent)⟩
  unfold decideLocation at decided
  dsimp only at decided
  split at decided
  · cases decided
    obtain ⟨only,none⟩ := keep _ fun state => state.undecided_same event settings skuId window
    exact ⟨only,fun absent _ => none absent⟩
  · rename_i decision _
    split at decided
    · cases decided
      obtain ⟨only,none⟩ := keep _ fun state => state.lowerConfidence_same.trans
        (CurrentItemState.refreshLastSeen_same _ event settings)
      exact ⟨only,fun absent _ => none absent⟩
    · split at decided
      · rename_i found matched
        cases decided
        have stored : state = some found := (Option.filter_eq_some_iff.mp matched).1
        obtain ⟨only,none⟩ := keep (fun found => found.confirmed event decision settings)
          fun found => found.confirmed_same event settings decision
        rw [stored] at only
        refine ⟨only,?_⟩
        intro absent
        rw [stored] at absent
        cases absent
      · obtain ⟨⟨after,replenishment⟩,performed,result⟩ := bind_eq_ok.mp decided
        cases result
        refine ⟨recordTransition_onlyItem (moveItem_recorded performed),?_⟩
        intro _ unchanged
        cases unchanged

/-- A removed item is not written, and an unknown one only if no row of it was inserted since. -/
theorem locateReadItem_observes {resolved : RfidObservationEvent} {binding : EpcBinding}
    {evidenceStart : Option Time} {marked : Ingress}
    (known : ∀ found, state = some found → db.inventory.items.find? event.epc = some found)
    (located : locateReadItem platform settings db event resolved binding evidenceStart recent clock
      evidenceId state marked = .ok effect) :
    db.inventory.Observes event.epc effect.inventory ∧
      (state = none → ∀ found, db.inventory.items.find? event.epc = some found →
        effect.inventory.items.find? event.epc = some found) := by
  unfold locateReadItem at located
  dsimp only at located
  split at located
  · cases located
    exact ⟨.refl _ _,fun _ found stored => stored⟩
  · split at located
    · cases located
      exact ⟨.refl _ _,fun _ found stored => stored⟩
    · rename_i present
      obtain ⟨decision,decided,finished⟩ := bind_eq_ok.mp located
      split at finished
      · cases finished
      · rename_i inserted
        cases finished
        have keyed : ∀ found, state = some found → found.epc = event.epc :=
          fun found read => Table.key_of_find? (known found read)
        obtain ⟨only,kept⟩ := decideLocation_onlyItem keyed decided
        have unwritten : state = none → ∀ found, db.inventory.items.find? event.epc = some found →
            effect.inventory = db.inventory := by
          intro absent found stored
          apply kept absent
          simpa [absent,stored] using inserted
        refine ⟨⟨only,?_⟩,?_⟩
        · intro found stored removed
          cases read : state with
          | none =>
              rw [unwritten read found stored]
              exact ⟨stored,rfl⟩
          | some other =>
              have same := known other read
              rw [stored] at same
              cases same
              rw [read] at present
              exact absurd removed present
        · intro absent found stored
          rw [unwritten absent found stored]
          exact stored

end Observing

variable {platform : Platform} {settings : Settings} {request : ItemRequest}
  {held : List ItemLock} {db : Database} {epc : Epc} {state : Option CurrentItemState}

section Locking

def KnowsItem (held : List ItemLock) (db : Database) (epc : Epc) (state : Option CurrentItemState) :
    Prop :=
  ∀ found, state = some found →
    .item epc ∈ held ∧ db.inventory.items.find? epc = some found

theorem KnowsItem.rely {after : Database} (knows : KnowsItem held db epc state)
    (rely : (itemDiscipline platform settings).Rely held db after) :
    KnowsItem held after epc state := by
  intro found read
  obtain ⟨locked,stored⟩ := knows found read
  exact ⟨locked,rely_item rely locked stored⟩

theorem safe_lockItem {next : Option CurrentItemState → ItemProgram}
    (safe : ∀ kept after state, (∀ lock ∈ held, lock ∈ kept) →
      (itemDiscipline platform settings).Rely held db after → KnowsItem kept after epc state →
      (itemDiscipline platform settings).Safe request kept (next state) after) :
    (itemDiscipline platform settings).Safe request held (lockItem epc next) db := by
  intro seen toSeen _
  dsimp only
  split
  · apply safe held seen none (fun _ => id) toSeen
    intro found absent
    cases absent
  · intro locked toLocked _
    apply safe _ locked _ (fun lock mine => List.mem_cons_of_mem _ mine) (toSeen.trans toLocked)
    exact fun found stored => ⟨List.mem_cons_self ..,stored⟩

theorem safe_refuse {failure : Failure}
    (refused : ∀ after, (itemDiscipline platform settings).Rely held db after →
      request.Refused platform settings after) :
    (itemDiscipline platform settings).Safe request held (abandon failure) db :=
  safe_abandon fun after rely => ⟨rfl,refused after rely⟩

theorem safe_check {condition : Prop} [Decidable condition] {failure : Failure}
    {next : ItemProgram}
    (refused : ¬condition → ∀ after, (itemDiscipline platform settings).Rely held db after →
      request.Refused platform settings after)
    (safe : condition → (itemDiscipline platform settings).Safe request held next db) :
    (itemDiscipline platform settings).Safe request held (ensure condition failure next) db :=
  safe_ensure (fun fails after rely => ⟨rfl,refused fails after rely⟩) safe

end Locking

section Removing

variable {storeId eventId : Uuid} {create : BusinessEventCreate} {clock : Clock}

structure Unseen (settings : Settings) (storeId : Uuid) (create : BusinessEventCreate)
    (clock : Clock) (held : List ItemLock) (db : Database) : Prop where
  inTime : create.occurredAt ≤ clock.processor + seconds settings.rfidMaxFutureSkewSeconds
  present : (db.registry.stores.find? storeId).isSome
  locked : .businessEvent create.sourceSystem create.externalEventId ∈ held
  unseen : findBusinessEvent db.inventory create.sourceSystem create.externalEventId = none

theorem Unseen.rely {after : Database} (unseen : Unseen settings storeId create clock held db)
    (rely : (itemDiscipline platform settings).Rely held db after) :
    Unseen settings storeId create clock held after where
  inTime := unseen.inTime
  present := by rw [rely_registryStores rely]; exact unseen.present
  locked := unseen.locked
  unseen := by rw [rely_findBusinessEvent rely unseen.locked]; exact unseen.unseen

theorem Unseen.weaken {kept : List ItemLock}
    (unseen : Unseen settings storeId create clock held db) (more : ∀ lock ∈ held, lock ∈ kept) :
    Unseen settings storeId create clock kept db :=
  ⟨unseen.inTime,unseen.present,more _ unseen.locked,unseen.unseen⟩

theorem Unseen.refused (unseen : Unseen settings storeId create clock held db) :
    (ItemRequest.remove storeId create clock eventId).Refused platform settings db := by
  right
  right
  intro existing found
  rw [unseen.unseen] at found
  cases found

theorem remove_stored {item : CurrentItemState} {bucket : Bucket} {response : ItemResponse}
    {after : Database}
    (written : Database.remove platform storeId create clock eventId item bucket db =
      .ok (response,after)) :
    ∃ event inventory middle, after = { db with inventory := inventory } ∧
      response = .accepted ⟨event,.pendingProjection,true⟩ ∧
      StoredRemoval platform db.registry db.inventory item bucket storeId create eventId
        clock.started event inventory middle := by
  have stored := orBusinessEventConflict_eq_ok.mp written
  split at stored
  · cases stored
  · obtain ⟨⟨event,inventory⟩,recorded,done⟩ := bind_eq_ok.mp stored
    cases done
    obtain ⟨middle,kept⟩ := storeRemoval_stored recorded
    exact ⟨event,inventory,middle,rfl,rfl,kept⟩

theorem StoredRemoval.onlyItem {registry : Registry} {inventory after middle : Inventory}
    {item : CurrentItemState} {bucket : Bucket} {createdAt : Time} {event : BusinessEvent}
    (stored : StoredRemoval platform registry inventory item bucket storeId create eventId createdAt
      event after middle) :
    (∀ other, other ≠ item.epc → after.items.find? other = inventory.items.find? other) ∧
      ∀ other, other ≠ item.epc → after.entriesOf other = inventory.entriesOf other := by
  have only := recordTransition_onlyItem stored.recorded
  rw [stored.finished]
  exact ⟨only.items,only.entries⟩

theorem safe_removeItem (unseen : Unseen settings storeId create clock held db) :
    (itemDiscipline platform settings).Safe (.remove storeId create clock eventId) held
      (removeItem platform storeId create clock eventId) db := by
  apply safe_lockItem
  intro kept locked item grown toLocked knows
  have atLocked := (unseen.rely toLocked).weaken grown
  cases item with
  | none => exact safe_refuse fun after rely => (atLocked.rely rely).refused
  | some item =>
      intro marked toMarked _
      have atMarked := atLocked.rely toMarked
      dsimp only
      cases removable : removableBucket marked.ingress item storeId create.occurredAt with
      | error failure => exact safe_refuse fun after rely => (atMarked.rely rely).refused
      | ok bucket =>
          apply safe_commit
          · intro before response after toBefore _ written
            have atBefore := atMarked.rely toBefore
            obtain ⟨itemLocked,found⟩ := ((knows.rely toMarked).rely toBefore) item rfl
            have keyed : item.epc = create.epc := Table.key_of_find? found
            obtain ⟨event,inventory,middle,rfl,rfl,stored⟩ := remove_stored written
            refine ⟨.removed atBefore.inTime atBefore.present atBefore.unseen found
              (removableBucket_reaches removable).1 (removableBucket_located removable) stored,?_,?_⟩
            · intro lock needed
              rw [List.mem_singleton.mp needed]
              exact atBefore.locked
            · intro other row stays free
              have apart : other ≠ item.epc := by
                rintro rfl
                exact free (keyed ▸ itemLocked)
              exact (stored.onlyItem.1 other apart).trans stays
          · exact fun after failure rely _ => ⟨rfl,(atMarked.rely rely).refused⟩

theorem safe_removal :
    (itemDiscipline platform settings).Safe (.remove storeId create clock eventId) []
      (removal platform settings storeId create clock eventId) db := by
  intro seen _ _
  apply safe_check
  · intro absent after rely
    left
    rw [rely_registryStores rely]
    exact eq_false_of_ne_true absent
  · intro present
    apply safe_check
    · intro late after _
      exact .inr (.inl (lt_of_not_ge late))
    · intro inTime locked toLocked _ known toKnown _
      have atKnown : (known.registry.stores.find? storeId).isSome := by
        rw [rely_registryStores toKnown,rely_registryStores toLocked]
        exact present
      have mine : ItemLock.businessEvent create.sourceSystem create.externalEventId ∈
          [ItemLock.businessEvent create.sourceSystem create.externalEventId] :=
        List.mem_singleton_self _
      dsimp only
      cases stored : findBusinessEvent known.inventory create.sourceSystem create.externalEventId with
      | none => exact safe_removeItem ⟨inTime,atKnown,mine,stored⟩
      | some existing =>
          apply safe_check
          · intro conflict after rely
            right
            right
            intro found later
            rw [rely_findBusinessEvent rely mine,stored] at later
            cases later
            exact conflict
          · intro content current toCurrent _ after toAfter _
            have still : findBusinessEvent after.inventory create.sourceSystem
                create.externalEventId = some existing := by
              rw [rely_findBusinessEvent toAfter mine,rely_findBusinessEvent toCurrent mine]
              exact stored
            have atAfter : (after.registry.stores.find? storeId).isSome := by
              rw [rely_registryStores toAfter,rely_registryStores toCurrent]
              exact atKnown
            refine ⟨.repeated inTime atAfter still content,?_,fun _ _ found _ => found⟩
            intro lock needed
            exact needed

end Removing

section Observation

variable {recent : RecentObservationState} {event : RfidObservationEvent} {clock : Clock}
  {quarantineId evidenceId : Uuid}

/-- A commit that leaves registry and inventory as they are. -/
theorem commits_unobserved {before after : Database} {result : ProcessingResult}
    (registry : after.registry = before.registry) (inventory : after.inventory = before.inventory) :
    CommitsItem platform settings (.observe recent event clock quarantineId evidenceId) held before
      after (.ok (.processed result)) := by
  refine ⟨.observed registry ?_,?_,?_⟩
  · rw [inventory]
    exact .refl _ _
  · intro lock needed
    cases needed
  · intro epc state found _
    rw [inventory]
    exact found

theorem withConnectivity_frame {resolved : RfidObservationEvent} {after : Database}
    (written : withConnectivity settings resolved db = .ok after) :
    ∃ connectivity, after = { db with connectivity } := by
  obtain ⟨connectivity,-,done⟩ := bind_eq_ok.mp written
  cases done
  exact ⟨connectivity,rfl⟩

theorem safe_quarantineAfter {reason : RejectionReason} {written : Database → Attempt Database}
    {finalizedAt : Time}
    (frame : ∀ before after, written before = .ok after →
      after.registry = before.registry ∧ after.inventory = before.inventory) :
    (itemDiscipline platform settings).Safe
      (.observe recent event clock quarantineId evidenceId) held
      (quarantineAfter event reason quarantineId finalizedAt written) db := by
  apply safe_commit
  · intro before response after _ _ wrote
    obtain ⟨middle,first,wrote⟩ := bind_eq_ok.mp wrote
    obtain ⟨⟨result,finished⟩,quarantined,done⟩ := bind_eq_ok.mp wrote
    cases done
    obtain ⟨registry,inventory⟩ := frame before middle first
    obtain ⟨ingress,rfl⟩ := Database.quarantine_frame quarantined
    exact commits_unobserved registry inventory
  · exact fun after failure _ _ => ⟨rfl,trivial⟩

theorem commits_observeItem {resolved : RfidObservationEvent} {binding : EpcBinding}
    {evidenceStart : Option Time} {memory : RecentObservationState} {marked : Ingress}
    {after : Database} {response : ItemResponse} (knows : KnowsItem held db event.epc state)
    (written : observeItem platform settings event resolved binding evidenceStart memory clock
      evidenceId state marked db = .ok (response,after)) :
    CommitsItem platform settings (.observe recent event clock quarantineId evidenceId) held db after
      (.ok response) := by
  obtain ⟨connected,first,written⟩ := bind_eq_ok.mp written
  obtain ⟨effect,located,written⟩ := bind_eq_ok.mp written
  obtain ⟨⟨result,finished⟩,finalized,done⟩ := bind_eq_ok.mp written
  cases done
  obtain ⟨connectivity,rfl⟩ := withConnectivity_frame first
  obtain ⟨ingress,rfl⟩ := Database.finalize_frame finalized
  have known : ∀ found, state = some found → ({ db with connectivity := connectivity } :
      Database).inventory.items.find? event.epc = some found :=
    fun found read => (knows found read).2
  obtain ⟨observes,unwritten⟩ := locateReadItem_observes known located
  refine ⟨.observed rfl observes,fun lock needed => (by cases needed),?_⟩
  intro epc row stored free
  by_cases mine : epc = event.epc
  · subst mine
    cases read : state with
    | none => exact unwritten read row stored
    | some found => exact absurd (knows found read).1 free
  · exact (observes.only.items epc mine).trans stored

theorem safe_observation :
    (itemDiscipline platform settings).Safe
      (.observe recent event clock quarantineId evidenceId) []
      (observation platform settings recent event clock quarantineId evidenceId) db := by
  unfold observation
  split
  · apply safe_commit
    · intro before response after _ _ wrote
      obtain ⟨⟨result,finished⟩,finalized,done⟩ := bind_eq_ok.mp wrote
      cases done
      obtain ⟨ingress,rfl⟩ := Database.finalize_frame finalized
      exact commits_unobserved rfl rfl
    · exact fun after failure _ _ => ⟨rfl,trivial⟩
  · rename_i memory _
    have same : ∀ before after : Database, (.ok before : Attempt Database) = .ok after →
        after.registry = before.registry ∧ after.inventory = before.inventory := by
      intro before after done
      cases done
      exact ⟨rfl,rfl⟩
    unfold freshObservation
    split
    · exact safe_quarantineAfter same
    · intro assigned _ _
      dsimp only
      cases resolveEffectiveAssignment assigned.registry event with
      | error reason => exact safe_quarantineAfter same
      | ok assignment =>
          intro bound _ _
          dsimp only
          cases resolveBinding bound.registry bound.ingress event clock.replay with
          | none =>
              apply safe_quarantineAfter
              intro before after written
              obtain ⟨connectivity,rfl⟩ := withConnectivity_frame written
              exact ⟨rfl,rfl⟩
          | some found =>
              apply safe_lockItem
              intro kept locked state _ _ knows marked toMarked _
              apply safe_commit
              · intro before response after toBefore _ written
                exact commits_observeItem ((knows.rely toMarked).rely toBefore) written
              · exact fun after failure _ _ => ⟨rfl,trivial⟩

/-- Every session keeps the discipline, however its statements interleave with the others'. -/
theorem items_verify (platform : Platform) (settings : Settings) :
    (itemDiscipline platform settings).Verifies (itemService platform settings) := by
  intro request db _
  cases request with
  | remove storeId create clock eventId => exact safe_removal
  | observe recent event clock quarantineId evidenceId => exact safe_observation
  | elsewhere work =>
      intro after _ _
      exact ⟨.worked,fun lock needed => (by cases needed),fun _ _ found _ => found⟩

end Observation

end Abacus

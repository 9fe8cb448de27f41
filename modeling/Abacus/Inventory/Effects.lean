import Abacus.Inventory.Coherence

/-! What one observation or one removal can do to the inventory tables. -/
set_option autoImplicit false

namespace Abacus

open Relational (Table)

/-- Nothing, a refresh of an item row in place, or one recorded move of one item. -/
inductive Inventory.Advance (registry : Registry) (inventory : Inventory) : Inventory → Prop where
  | unchanged : Advance registry inventory inventory
  | refreshed (old new : CurrentItemState) (found : inventory.items.find? old.epc = some old)
      (epc : new.epc = old.epc) (sku : new.skuId = old.skuId)
      (location : new.location = old.location) (version : new.stateVersion = old.stateVersion) :
      Advance registry inventory { inventory with items := inventory.items.put new }
  | recorded (next : CurrentItemState) (transitionId : Uuid) (confidence : Confidence)
      (observedAt createdAt : Time) (middle : Inventory)
      (businessEvents : Table BusinessEvent.id)
      (written : recordTransition registry inventory next transitionId
        (moveDeltas transitionId next.epc (inventory.place next.epc) next.bucket? confidence
          observedAt) createdAt = .ok middle)
      (version : next.stateVersion = inventory.version next.epc + 1)
      (moved : inventory.place next.epc ≠ next.bucket?) :
      Advance registry inventory { middle with businessEvents }

section Refreshing

variable (state : CurrentItemState) (event : RfidObservationEvent) (settings : Settings)

/-- A row that differs at most in its timestamps and its confidence. -/
structure CurrentItemState.SameItem (old new : CurrentItemState) : Prop where
  epc : new.epc = old.epc
  sku : new.skuId = old.skuId
  location : new.location = old.location
  version : new.stateVersion = old.stateVersion
  removal : new.authoritativeRemoval = old.authoritativeRemoval

theorem CurrentItemState.SameItem.trans {first second third : CurrentItemState}
    (left : first.SameItem second) (right : second.SameItem third) : first.SameItem third :=
  ⟨right.epc.trans left.epc,right.sku.trans left.sku,right.location.trans left.location,
    right.version.trans left.version,right.removal.trans left.removal⟩

theorem CurrentItemState.lowerConfidence_same : state.SameItem state.lowerConfidence :=
  ⟨rfl,rfl,rfl,rfl,rfl⟩

theorem CurrentItemState.refreshLastSeen_same :
    state.SameItem (state.refreshLastSeen event settings) := by
  unfold refreshLastSeen
  split <;> exact ⟨rfl,rfl,rfl,rfl,rfl⟩

theorem CurrentItemState.undecided_same (skuId : Uuid) (window : List RfidObservationEvent) :
    state.SameItem (state.undecided event skuId window settings) := by
  unfold undecided
  split
  · exact state.refreshLastSeen_same event settings
  · exact state.lowerConfidence_same.trans (refreshLastSeen_same _ event settings)

theorem CurrentItemState.confirmed_same (decision : StableZoneDecision) :
    state.SameItem (state.confirmed event decision settings) := by
  unfold confirmed
  split <;> exact ⟨rfl,rfl,rfl,rfl,rfl⟩

end Refreshing

section Observing

variable {platform : Platform} {settings : Settings} {registry : Registry} {inventory : Inventory}

theorem Inventory.advance_same {epc : Epc} {state new : CurrentItemState}
    (found : inventory.items.find? epc = some state) (same : state.SameItem new) :
    inventory.Advance registry { inventory with items := inventory.items.put new } :=
  .refreshed state new (by rw [Table.key_of_find? found]; exact found) same.epc same.sku
    same.location same.version

theorem moveItem_advance {replenishment : Replenishment} {state : Option CurrentItemState}
    {event : RfidObservationEvent} {skuId : Uuid} {decision : StableZoneDecision} {createdAt : Time}
    {evidenceId : Uuid} {after : Inventory × Replenishment}
    (found : inventory.items.find? event.epc = state)
    (apart : (state.filter fun state => decide (state.skuId = skuId) &&
      decide (state.location = some decision.location)) = none)
    (moved : moveItem platform registry inventory replenishment state event skuId decision createdAt
      evidenceId = .ok after) : inventory.Advance registry after.1 := by
  obtain ⟨middle,recorded,rest⟩ := bind_eq_ok.mp moved
  have result : after.1 = middle := by
    split at rest
    · split at rest
      · obtain ⟨replenishment,-,done⟩ := bind_eq_ok.mp rest
        cases done; rfl
      · cases rest; rfl
    · cases rest; rfl
  have place : state.bind CurrentItemState.bucket? = inventory.place event.epc := by
    rw [Inventory.place,found]
  rw [place] at recorded
  rw [result]
  refine .recorded (movedState state event skuId decision) _ decision.confidence
    decision.observedAt createdAt middle middle.businessEvents recorded ?_ ?_
  · simp [movedState,Inventory.version,found]
  · intro same
    cases state with
    | none => simp [Inventory.place,movedState,found,CurrentItemState.bucket?] at same
    | some state =>
        simp only [Inventory.place,movedState,found,Option.bind_some,CurrentItemState.bucket?,
          Option.map_some] at same
        obtain ⟨location,here,equal⟩ := Option.map_eq_some_iff.mp same
        simp only [Location.bucket,Bucket.mk.injEq] at equal
        have equalLocation : location = decision.location := by
          cases location; cases h : decision.location
          simp_all
        simp [Option.filter_some,here,equal.2.1,equalLocation] at apart

theorem decideLocation_advance {db : Database} {event : RfidObservationEvent} {skuId : Uuid}
    {state : Option CurrentItemState} {watermark : Option Time}
    {window : List RfidObservationEvent} {recent : RecentObservationState} {clock : Clock}
    {evidenceId : Uuid} {effect : Effect} (found : db.inventory.items.find? event.epc = state)
    (decided : decideLocation platform settings db event skuId state watermark window recent clock
      evidenceId = .ok effect) : db.inventory.Advance db.registry effect.inventory := by
  have keep : ∀ refresh : CurrentItemState → CurrentItemState,
      (∀ state : CurrentItemState, state.SameItem (refresh state)) →
      db.inventory.Advance db.registry { db.inventory with
        items := state.elim db.inventory.items fun state => db.inventory.items.put (refresh state) } := by
    intro refresh same
    cases state with
    | none => exact .unchanged
    | some state => exact Inventory.advance_same found (same state)
  unfold decideLocation at decided
  dsimp only at decided
  split at decided
  · cases decided
    exact keep _ fun state => state.undecided_same event settings skuId window
  · rename_i decision _
    split at decided
    · cases decided
      exact keep _ fun state => state.lowerConfidence_same.trans
        (CurrentItemState.refreshLastSeen_same _ event settings)
    · split at decided
      · rename_i state' matched
        cases decided
        have located := (Option.filter_eq_some_iff.mp matched).1
        exact Inventory.advance_same (found.trans located)
          (state'.confirmed_same event settings decision)
      · rename_i apart
        obtain ⟨moved,performed,result⟩ := bind_eq_ok.mp decided
        cases result
        exact moveItem_advance found apart performed

theorem locateItem_advance {db : Database} {event resolved : RfidObservationEvent}
    {binding : EpcBinding} {evidenceStart : Option Time} {recent : RecentObservationState}
    {clock : Clock} {evidenceId : Uuid} {effect : Effect}
    (located : locateItem platform settings db event resolved binding evidenceStart recent clock
      evidenceId = .ok effect) : db.inventory.Advance db.registry effect.inventory := by
  unfold locateItem at located
  dsimp only at located
  split at located
  · cases located; exact .unchanged
  · split at located
    · cases located; exact .unchanged
    · exact decideLocation_advance rfl located

/-- What a committed observation leaves alone, and how it advances the inventory. -/
structure Database.Observed (db after : Database) : Prop where
  registry : after.registry = db.registry
  policies : after.policies = db.policies
  inventory : db.inventory.Advance db.registry after.inventory

theorem Database.finalize_frame {db after : Database} {event : RfidObservationEvent}
    {result answer : ProcessingResult} {finalizedAt : Time}
    (finalized : db.finalize event result finalizedAt = .ok (answer,after)) :
    ∃ ingress, after = { db with ingress } := by
  obtain ⟨ingress,-,done⟩ := bind_eq_ok.mp finalized
  cases done
  exact ⟨ingress,rfl⟩

theorem Database.quarantine_frame {db after : Database} {event : RfidObservationEvent}
    {reason : RejectionReason} {quarantineId : Uuid} {answer : ProcessingResult} {finalizedAt : Time}
    (quarantined : db.quarantine event reason quarantineId finalizedAt = .ok (answer,after)) :
    ∃ ingress, after = { db with ingress } := by
  obtain ⟨ingress,-,done⟩ := bind_eq_ok.mp quarantined
  cases done
  exact ⟨ingress,rfl⟩

theorem processFreshObservation_observed {db after : Database}
    {recent recent' : RecentObservationState} {event : RfidObservationEvent} {clock : Clock}
    {quarantineId evidenceId : Uuid} {result : ProcessingResult}
    (processed : processFreshObservation platform settings db recent event clock quarantineId
      evidenceId = .ok (result,after,recent')) : db.Observed after := by
  have quarantined : ∀ {start database : Database} {reason : RejectionReason}
      {answer : ProcessingResult},
      start.quarantine event reason quarantineId clock.finalized = .ok (answer,database) →
      start.registry = db.registry → start.policies = db.policies →
      start.inventory = db.inventory → db.Observed database := by
    intro start database reason answer frame registry policies inventory
    obtain ⟨ingress,rfl⟩ := Database.quarantine_frame frame
    exact ⟨registry,policies,by simp only [inventory]; exact .unchanged⟩
  unfold processFreshObservation at processed
  dsimp only at processed
  split at processed
  · obtain ⟨⟨answer,database⟩,frame,done⟩ := bind_eq_ok.mp processed
    cases done
    exact quarantined frame rfl rfl rfl
  · split at processed
    · obtain ⟨⟨answer,database⟩,frame,done⟩ := bind_eq_ok.mp processed
      cases done
      exact quarantined frame rfl rfl rfl
    · obtain ⟨connectivity,-,processed⟩ := bind_eq_ok.mp processed
      split at processed
      · obtain ⟨⟨answer,database⟩,frame,done⟩ := bind_eq_ok.mp processed
        cases done
        exact quarantined frame rfl rfl rfl
      · obtain ⟨effect,located,processed⟩ := bind_eq_ok.mp processed
        obtain ⟨⟨answer,database⟩,finalized,done⟩ := bind_eq_ok.mp processed
        cases done
        obtain ⟨ingress,rfl⟩ := Database.finalize_frame finalized
        exact ⟨rfl,rfl,locateItem_advance located⟩

theorem processObservation_observed {db after : Database} {recent recent' : RecentObservationState}
    {event : RfidObservationEvent} {clock : Clock} {quarantineId evidenceId : Uuid}
    {result : ProcessingResult}
    (processed : processObservation platform settings db recent event clock quarantineId evidenceId =
      .ok (result,after,recent')) : db.Observed after := by
  unfold processObservation at processed
  split at processed
  · obtain ⟨⟨answer,database⟩,finalized,done⟩ := bind_eq_ok.mp processed
    cases done
    obtain ⟨ingress,rfl⟩ := Database.finalize_frame finalized
    exact ⟨rfl,rfl,.unchanged⟩
  · exact processFreshObservation_observed processed

end Observing

section Removing

variable {platform : Platform} {settings : Settings} {registry : Registry}
  {ingress : Ingress} {inventory after : Inventory}

theorem storeRemoval_advance {state : CurrentItemState} {bucket : Bucket} {storeId : Uuid}
    {request : BusinessEventCreate} {eventId : Uuid} {createdAt : Time} {event : BusinessEvent}
    (found : inventory.items.find? state.epc = some state) (located : state.bucket? = some bucket)
    (stored : storeRemoval platform registry inventory state bucket storeId request eventId
      createdAt = .ok (event,after)) : inventory.Advance registry after := by
  obtain ⟨middle,recorded,rest⟩ := bind_eq_ok.mp stored
  obtain ⟨businessEvents,-,done⟩ := bind_eq_ok.mp rest
  cases done
  have place : inventory.place state.epc = some bucket := by simp [Inventory.place,found,located]
  let next := state.remove eventId request.occurredAt
  let transitionId := platform.transitionId registry.tenantId state.epc next.stateVersion
  have written : recordTransition registry inventory next transitionId
      (moveDeltas transitionId next.epc (inventory.place next.epc) next.bucket? state.confidence
        request.occurredAt) createdAt = .ok middle := by
    change recordTransition registry inventory next transitionId
      (moveDeltas transitionId state.epc (inventory.place state.epc) none state.confidence
        request.occurredAt) createdAt = .ok middle
    rw [place]
    exact recorded
  refine .recorded next transitionId state.confidence request.occurredAt createdAt middle
    businessEvents written ?_ ?_
  · simp [next,CurrentItemState.remove,Inventory.version,found]
  · change inventory.place state.epc ≠ none
    simp [place]

theorem orBusinessEventConflict_eq_ok {α : Type} {attempt : Attempt α} {value : α} :
    orBusinessEventConflict attempt = .ok value ↔ attempt = .ok value := by
  cases attempt with
  | ok other => simp [orBusinessEventConflict]
  | error failure => cases failure <;> simp [orBusinessEventConflict]

/-- A removable item is located in the bucket its removal leaves. -/
theorem removableBucket_located {state : CurrentItemState} {storeId : Uuid} {occurredAt : Time}
    {bucket : Bucket} (removable : removableBucket ingress state storeId occurredAt = .ok bucket) :
    state.bucket? = some bucket := by
  unfold removableBucket at removable
  split at removable
  · cases removable
  · split at removable
    · cases removable
    · rename_i location here
      split at removable
      · cases removable
      · split at removable
        · cases removable
        · cases removable
          simp [CurrentItemState.bucket?,here]

theorem acceptAuthoritativeRemoval_advance {storeId : Uuid} {request : BusinessEventCreate}
    {clock : Clock} {eventId : Uuid} {answer : AcceptedBusinessEvent}
    (accepted : acceptAuthoritativeRemoval platform settings registry ingress inventory storeId
      request clock eventId = .ok (answer,after)) : inventory.Advance registry after := by
  unfold acceptAuthoritativeRemoval at accepted
  split at accepted
  · cases accepted
  · split at accepted
    · cases accepted
    · split at accepted
      · split at accepted
        · cases accepted
        · cases accepted; exact .unchanged
      · split at accepted
        · cases accepted
        · rename_i state found
          obtain ⟨bucket,removable,accepted⟩ := bind_eq_ok.mp accepted
          obtain ⟨⟨event,stored⟩,written,done⟩ := bind_eq_ok.mp accepted
          cases done
          have keyed : state.epc = request.epc := Table.key_of_find? found
          exact storeRemoval_advance (by rw [keyed]; exact found)
            (removableBucket_located removable) (orBusinessEventConflict_eq_ok.mp written)

end Removing

theorem Inventory.Advance.journaled {registry : Registry} {inventory after : Inventory}
    (advance : inventory.Advance registry after) (journaled : inventory.Journaled registry) :
    after.Journaled registry := by
  cases advance with
  | unchanged => exact journaled
  | refreshed old new found epc sku location version =>
      exact journaled.refresh found epc sku location version
  | recorded next transitionId confidence observedAt createdAt middle businessEvents written version
      moved =>
      obtain ⟨chained,placed,numbered,wellFormed,zoned⟩ := journaled.record written version moved
      exact ⟨chained,placed,numbered,wellFormed,zoned⟩

end Abacus

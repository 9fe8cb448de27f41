import Abacus.Inventory.Effects

/-! What the worker's attempt at one observation does, branch by branch. -/
set_option autoImplicit false

namespace Abacus

open Relational (Table)

section Refreshing

variable (state : CurrentItemState) (event : RfidObservationEvent) (settings : Settings)

theorem CurrentItemState.refreshLastSeen_later :
    state.lastObservedAt ≤ (state.refreshLastSeen event settings).lastObservedAt := by
  unfold refreshLastSeen
  split
  · exact le_max_left _ _
  · exact le_rfl

theorem CurrentItemState.undecided_later (skuId : Uuid) (window : List RfidObservationEvent) :
    state.lastObservedAt ≤ (state.undecided event skuId window settings).lastObservedAt := by
  unfold undecided
  split
  · exact state.refreshLastSeen_later event settings
  · exact state.lowerConfidence.refreshLastSeen_later event settings

theorem CurrentItemState.confirmed_later (decision : StableZoneDecision) :
    state.lastObservedAt ≤ (state.confirmed event decision settings).lastObservedAt := by
  unfold confirmed
  split
  · exact le_max_left _ _
  · exact le_rfl

end Refreshing

/-- The observation as it goes into the evidence window, at the registry's location. -/
def RfidObservationEvent.resolvedAt (event : RfidObservationEvent) (assignment : DeviceAssignment) :
    RfidObservationEvent :=
  { event with storeId := assignment.storeId, zoneId := assignment.zoneId }

def Database.watermark (db : Database) (epc : Epc) : Option Time :=
  durableWatermark db.ingress (db.inventory.items.find? epc) epc

/-- The item's row is never ahead of the watermark. -/
theorem Database.watermark_ge {db : Database} {epc : Epc} {state : CurrentItemState}
    (found : db.inventory.items.find? epc = some state) :
    ∃ watermark, db.watermark epc = some watermark ∧ state.lastObservedAt ≤ watermark := by
  unfold watermark durableWatermark
  rw [found]
  cases processedObservationWatermark db.ingress epc with
  | none => exact ⟨_,rfl,le_rfl⟩
  | some processed => exact ⟨_,rfl,le_max_right _ _⟩

section Verdict

variable (platform : Platform) (settings : Settings) (db : Database)
  (event resolved : RfidObservationEvent) (skuId : Uuid) (evidenceStart : Option Time)
  (recent : RecentObservationState) (clock : Clock) (evidenceId : Uuid)

/-- An observation that is not late, of an item that was not removed. -/
structure Database.Counts : Prop where
  timely : ∀ watermark ∈ db.watermark event.epc, watermark ≤ event.observedAt
  present : ∀ state ∈ db.inventory.items.find? event.epc, state.authoritativeRemoval = none

/-- The evidence that an observation counts with, and the memory that keeps it. -/
def evidence : List RfidObservationEvent × RecentObservationState :=
  recent.add resolved settings.rfidMoveConfirmationWindowSeconds evidenceStart

inductive Verdict : Effect → Prop where
  | ignored (result : ProcessingResult) :
      Verdict ⟨result,db.inventory,db.replenishment,recent⟩
  | unseen (result : ProcessingResult) (counts : db.Counts event)
      (absent : db.inventory.items.find? event.epc = none) :
      Verdict ⟨result,db.inventory,db.replenishment,
        (evidence settings resolved evidenceStart recent).2⟩
  | refreshed (result : ProcessingResult) (state new : CurrentItemState) (counts : db.Counts event)
      (found : db.inventory.items.find? event.epc = some state) (same : state.SameItem new)
      (later : state.lastObservedAt ≤ new.lastObservedAt) :
      Verdict ⟨result,{ db.inventory with items := db.inventory.items.put new },db.replenishment,
        (evidence settings resolved evidenceStart recent).2⟩
  | moved (decision : StableZoneDecision) (inventory : Inventory) (replenishment : Replenishment)
      (counts : db.Counts event)
      (inferred : inferStableZone (evidence settings resolved evidenceStart recent).1 settings =
        some decision)
      (timely : ∀ watermark ∈ db.watermark event.epc, watermark ≤ decision.observedAt)
      (apart : ((db.inventory.items.find? event.epc).filter fun state =>
        decide (state.skuId = skuId) && decide (state.location = some decision.location)) = none)
      (performed : moveItem platform db.registry db.inventory db.replenishment
        (db.inventory.items.find? event.epc) event skuId decision clock.started evidenceId =
          .ok (inventory,replenishment)) :
      Verdict ⟨{ disposition := .processed, stateChanged := true },inventory,replenishment,
        (evidence settings resolved evidenceStart recent).2⟩

variable {platform settings db event resolved skuId evidenceStart recent clock evidenceId}

/-- The inversion of the worker's decision on a window. -/
theorem decideLocation_verdict {effect : Effect} (counts : db.Counts event)
    (decided : decideLocation platform settings db event skuId
      (db.inventory.items.find? event.epc) (db.watermark event.epc)
      (evidence settings resolved evidenceStart recent).1
      (evidence settings resolved evidenceStart recent).2 clock evidenceId = .ok effect) :
    Verdict platform settings db event resolved skuId evidenceStart recent clock evidenceId
      effect := by
  have keep : ∀ (result : ProcessingResult) (refresh : CurrentItemState → CurrentItemState),
      (∀ state : CurrentItemState, state.SameItem (refresh state)) →
      (∀ state : CurrentItemState, state.lastObservedAt ≤ (refresh state).lastObservedAt) →
      Verdict platform settings db event resolved skuId evidenceStart recent clock evidenceId
        ⟨result,{ db.inventory with
          items := (db.inventory.items.find? event.epc).elim db.inventory.items
            fun state => db.inventory.items.put (refresh state) },db.replenishment,
          (evidence settings resolved evidenceStart recent).2⟩ := by
    intro result refresh same later
    cases found : db.inventory.items.find? event.epc with
    | none => exact .unseen result counts found
    | some state => exact .refreshed result state (refresh state) counts found (same state) (later state)
  unfold decideLocation at decided
  dsimp only at decided
  split at decided
  · cases decided
    exact keep _ _ (fun state => state.undecided_same event settings skuId _)
      fun state => state.undecided_later event settings skuId _
  · rename_i decision inferred
    split at decided
    · cases decided
      exact keep _ _ (fun state => state.lowerConfidence_same.trans
          (CurrentItemState.refreshLastSeen_same _ event settings))
        fun state => state.lowerConfidence.refreshLastSeen_later event settings
    · rename_i timely
      split at decided
      · rename_i state matched
        cases decided
        have found := (Option.filter_eq_some_iff.mp matched).1
        exact .refreshed _ state _ counts found (state.confirmed_same event settings decision)
          (state.confirmed_later event settings decision)
      · rename_i apart
        obtain ⟨⟨inventory,replenishment⟩,performed,result⟩ := bind_eq_ok.mp decided
        cases result
        refine .moved decision inventory replenishment counts inferred ?_ apart performed
        intro watermark known
        rw [Option.mem_def] at known
        simpa [known] using timely

theorem locateItem_verdict {binding : EpcBinding} {effect : Effect}
    (located : locateItem platform settings db event resolved binding evidenceStart recent clock
      evidenceId = .ok effect) :
    Verdict platform settings db event resolved binding.skuId evidenceStart recent clock evidenceId
      effect := by
  unfold locateItem at located
  dsimp only at located
  split at located
  · cases located
    exact .ignored _
  · rename_i timely
    split at located
    · cases located
      exact .ignored _
    · rename_i present
      refine decideLocation_verdict ⟨?_,?_⟩ located
      · intro watermark known
        rw [Option.mem_def,Database.watermark] at known
        simpa [known] using timely
      · intro state found
        rw [Option.mem_def] at found
        simpa [found] using present

end Verdict

section Attempt

variable (platform : Platform) (settings : Settings) (db : Database)
  (recent : RecentObservationState) (event : RfidObservationEvent) (clock : Clock)
  (quarantineId evidenceId : Uuid)

def RecentObservationState.remembered : RecentObservationState :=
  ((recent.released event).rememberEvent event).2

structure Database.Hears (assignment : DeviceAssignment) (connectivity : Connectivity) : Prop where
  assigned : resolveEffectiveAssignment db.registry event = .ok assignment
  updated : updateConnectivity db.registry.stores db.connectivity (event.resolvedAt assignment)
    settings = .ok connectivity

inductive Attempted : Database → RecentObservationState → Prop where
  | duplicate (ingress : Ingress)
      (finalized : advanceBatch db.ingress event.eventId false .duplicate none clock.finalized =
        .ok ingress) :
      Attempted { db with ingress } (recent.remembered event)
  | rejected (reason : RejectionReason) (connectivity : Connectivity) (ingress : Ingress)
      (heard : connectivity = db.connectivity ∨
        ∃ assignment, db.Hears settings event assignment connectivity)
      (quarantined : quarantineObservation db.ingress event reason (.event event) quarantineId
        clock.finalized = .ok ingress) :
      Attempted { db with connectivity, ingress } (recent.remembered event)
  | located (assignment : DeviceAssignment) (connectivity : Connectivity) (binding : EpcBinding)
      (evidenceStart : Option Time) (effect : Effect) (ingress : Ingress)
      (heard : db.Hears settings event assignment connectivity)
      (bound : resolveBinding db.registry db.ingress event clock.replay =
        some (binding,evidenceStart))
      (verdict : Verdict platform settings db event (event.resolvedAt assignment) binding.skuId
        evidenceStart (recent.remembered event) clock evidenceId effect)
      (finalized : advanceBatch db.ingress event.eventId false effect.result.disposition.stored none
        clock.finalized = .ok ingress) :
      Attempted { db with connectivity, inventory := effect.inventory,
                          replenishment := effect.replenishment, ingress } effect.recent

variable {platform settings db recent event clock quarantineId evidenceId}

/-- A verdict does not depend on connectivity. -/
theorem Verdict.congr_connectivity {resolved : RfidObservationEvent} {skuId : Uuid}
    {evidenceStart : Option Time} {connectivity : Connectivity} {effect : Effect}
    (verdict : Verdict platform settings { db with connectivity } event resolved skuId evidenceStart
      recent clock evidenceId effect) :
    Verdict platform settings db event resolved skuId evidenceStart recent clock evidenceId
      effect := by
  have counts : ∀ {connectivity : Connectivity},
      ({ db with connectivity } : Database).Counts event → db.Counts event :=
    fun counts => ⟨counts.timely,counts.present⟩
  cases verdict with
  | ignored result => exact .ignored result
  | unseen result counted absent => exact .unseen result (counts counted) absent
  | refreshed result state new counted found same later =>
      exact .refreshed result state new (counts counted) found same later
  | moved decision inventory replenishment counted inferred timely apart performed =>
      exact .moved decision inventory replenishment (counts counted) inferred timely apart performed

/-- The inversion of `process_observation`. -/
theorem processObservation_attempted {after : Database} {recent' : RecentObservationState}
    {result : ProcessingResult}
    (processed : processObservation platform settings db recent event clock quarantineId evidenceId =
      .ok (result,after,recent')) :
    Attempted platform settings db recent event clock quarantineId evidenceId after recent' := by
  unfold processObservation at processed
  split at processed
  · rename_i memory remembered
    have here : memory = recent.remembered event := by
      rw [RecentObservationState.remembered,remembered]
    rw [here] at processed
    obtain ⟨⟨answer,database⟩,finalized,done⟩ := bind_eq_ok.mp processed
    cases done
    obtain ⟨ingress,advanced,same⟩ := bind_eq_ok.mp finalized
    cases same
    exact .duplicate ingress advanced
  · rename_i memory remembered
    have here : memory = recent.remembered event := by
      rw [RecentObservationState.remembered,remembered]
    rw [here] at processed
    unfold processFreshObservation at processed
    dsimp only at processed
    split at processed
    · obtain ⟨⟨answer,database⟩,frame,done⟩ := bind_eq_ok.mp processed
      cases done
      obtain ⟨ingress,stored,same⟩ := bind_eq_ok.mp frame
      cases same
      exact .rejected _ _ ingress (.inl rfl) stored
    · split at processed
      · obtain ⟨⟨answer,database⟩,frame,done⟩ := bind_eq_ok.mp processed
        cases done
        obtain ⟨ingress,stored,same⟩ := bind_eq_ok.mp frame
        cases same
        exact .rejected _ _ ingress (.inl rfl) stored
      · rename_i assignment assigned
        obtain ⟨connectivity,updated,processed⟩ := bind_eq_ok.mp processed
        have heard : db.Hears settings event assignment connectivity := ⟨assigned,updated⟩
        split at processed
        · obtain ⟨⟨answer,database⟩,frame,done⟩ := bind_eq_ok.mp processed
          cases done
          obtain ⟨ingress,stored,same⟩ := bind_eq_ok.mp frame
          cases same
          exact .rejected _ connectivity ingress (.inr ⟨assignment,heard⟩) stored
        · rename_i binding evidenceStart bound
          obtain ⟨effect,located,processed⟩ := bind_eq_ok.mp processed
          obtain ⟨⟨answer,database⟩,finalized,done⟩ := bind_eq_ok.mp processed
          cases done
          obtain ⟨ingress,advanced,same⟩ := bind_eq_ok.mp finalized
          cases same
          exact .located assignment connectivity binding evidenceStart effect ingress heard bound
            (locateItem_verdict located).congr_connectivity advanced

end Attempt

end Abacus

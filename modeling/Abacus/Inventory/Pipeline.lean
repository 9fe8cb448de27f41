import Abacus.Library.Machine
import Abacus.Inventory.Settlement
import Abacus.Model.Sample

/-! The inventory pipeline as a machine of atomic transactions, and its conservation law. -/
set_option autoImplicit false

namespace Abacus

open Relational (Table)
open Transition (Machine)

section Machine

structure PipelineState where
  database : Database
  recent : RecentObservationState

/-- Everything an inventory transaction reads and does not write, apart from the zones. -/
structure Surroundings where
  registry : Registry
  ingress : Ingress
  connectivity : Connectivity
  replenishment : Replenishment
  policies : Policies
  recent : RecentObservationState

/-- One transaction. `elsewhere` is any work outside the inventory tables: batch acceptance,
catalog promotion, task work, connectivity, a restart. -/
inductive PipelineEvent where
  | observe (event : RfidObservationEvent) (clock : Clock) (quarantineId evidenceId : Uuid)
  | remove (storeId : Uuid) (request : BusinessEventCreate) (clock : Clock) (eventId : Uuid)
  | apply (transitionId : Uuid) (now : Time)
  | applyFails (transitionId : Uuid) (error : String) (now : Time)
  | redeliver (transitionId : Uuid)
  | rebuild (now : Time)
  | elsewhere (surroundings : Surroundings)

/-- `apply_inventory_deltas` on the deltas of a transition that was applied before. -/
def redeliverTransition (registry : Registry) (connectivity : Connectivity) (inventory : Inventory)
    (transitionId : Uuid) : Attempt Inventory :=
  match (inventory.transitions.find? transitionId).filter
      InventoryTransitionOutbox.isPublished with
  | none => .ok inventory
  | some transition => do
      let deltas ← validatedTransitionDeltas transition
      let (_,inventory) ← applyInventoryDeltas registry connectivity inventory deltas
      return inventory

def PipelineState.commit {α : Type} (state : PipelineState) (attempt : Attempt α)
    (write : α → PipelineState) : PipelineState :=
  match attempt with
  | .ok value => write value
  | .error _ => state

def PipelineState.withInventory (state : PipelineState) (inventory : Inventory) : PipelineState :=
  { state with database := { state.database with inventory } }

def PipelineState.next (platform : Platform) (settings : Settings) (state : PipelineState) :
    PipelineEvent → PipelineState
  | .observe event clock quarantineId evidenceId =>
      state.commit (processObservation platform settings state.database state.recent event clock
        quarantineId evidenceId) fun (_,database,recent) => ⟨database,recent⟩
  | .remove storeId request clock eventId =>
      state.commit (acceptAuthoritativeRemoval platform settings state.database.registry
        state.database.ingress state.database.inventory storeId request clock eventId)
        fun (_,inventory) => state.withInventory inventory
  | .apply transitionId now =>
      state.commit (applyTransition state.database.registry state.database.connectivity
        state.database.inventory transitionId now) state.withInventory
  | .applyFails transitionId error now =>
      let (inventory,connectivity) := failTransition settings state.database.connectivity
        state.database.inventory transitionId error now
      { state with database := { state.database with inventory, connectivity } }
  | .redeliver transitionId =>
      state.commit (redeliverTransition state.database.registry state.database.connectivity
        state.database.inventory transitionId) state.withInventory
  | .rebuild now =>
      state.commit (rebuildInventoryProjection state.database.inventory state.database.connectivity
        now) fun (_,inventory,connectivity) =>
          { state with database := { state.database with inventory, connectivity } }
  | .elsewhere surroundings =>
      { database := {
          registry := { surroundings.registry with
            tenantId := state.database.registry.tenantId
            zones := state.database.registry.zones }
          ingress := surroundings.ingress
          connectivity := surroundings.connectivity
          inventory := state.database.inventory
          replenishment := surroundings.replenishment
          policies := surroundings.policies }
        recent := surroundings.recent }

def Inventory.empty : Inventory where
  items := Table.empty
  transitions := Table.empty
  projections := Table.empty
  applied := Table.empty
  businessEvents := Table.empty

def pipeline (platform : Platform) (settings : Settings) :
    Machine PipelineState PipelineEvent where
  initial state := state.database.inventory = Inventory.empty
  next state event := some (state.next platform settings event)

theorem Inventory.empty_coherent (registry : Registry) : Inventory.empty.Coherent registry where
  chained := trivial
  placed := rfl
  numbered _ := rfl
  wellFormed _ member := by cases member
  zoned _ member := by cases member
  appliedPublished _ member := by cases member
  publishedApplied _ member := by cases member
  projected _ := rfl

theorem redeliverTransition_coherent {registry : Registry} {connectivity : Connectivity}
    {inventory after : Inventory} {transitionId : Uuid} (coherent : inventory.Coherent registry)
    (redelivered : redeliverTransition registry connectivity inventory transitionId = .ok after) :
    after.Coherent registry := by
  unfold redeliverTransition at redelivered
  split at redelivered
  · cases redelivered; exact coherent
  · rename_i transition found
    obtain ⟨stored,published⟩ := Option.filter_eq_some_iff.mp found
    have member := Table.mem_of_find? stored
    have wellFormed := coherent.wellFormed transition member
    obtain ⟨deltas,validated,applied⟩ := bind_eq_ok.mp redelivered
    obtain ⟨⟨count,middle⟩,accepted,result⟩ := bind_eq_ok.mp applied
    cases result
    rw [wellFormed.validated] at validated
    cases validated
    have spec := applyInventoryDeltas_spec accepted
    rw [freshDeltas_of_applied (coherent.publishedApplied transition member published)] at spec
    have applied : after.applied = inventory.applied := Table.ext (by simpa using spec.applied)
    obtain ⟨journaled,appliedPublished,publishedApplied,projected⟩ := coherent
    refine ⟨?_,?_,?_,?_⟩
    · exact journaled.restamp (fun _ => false) (publish_restamps 0)
        (by rw [spec.transitions]; apply Table.ext; simp [Table.updateWhere]) spec.items
    · rw [applied,spec.transitions]; exact appliedPublished
    · rw [applied,spec.transitions]; exact publishedApplied
    · intro bucket
      rw [spec.quantity,spec.transitions,deltaSum_nil,add_zero]
      exact projected bucket

def PipelineState.Coherent (state : PipelineState) : Prop :=
  state.database.inventory.Coherent state.database.registry

theorem PipelineState.next_coherent {platform : Platform} {settings : Settings}
    {state : PipelineState} (event : PipelineEvent) (coherent : state.Coherent) :
    (state.next platform settings event).Coherent := by
  have committed : ∀ {α : Type} {attempt : Attempt α} {write : α → PipelineState},
      (∀ value, attempt = .ok value → (write value).Coherent) →
      (state.commit attempt write).Coherent := by
    intro α attempt write holds
    cases attempt with
    | error failure => exact coherent
    | ok value => exact holds value rfl
  cases event with
  | observe event clock quarantineId evidenceId =>
      apply committed
      rintro ⟨result,database,recent⟩ processed
      have observed := processObservation_observed processed
      change database.inventory.Coherent database.registry
      rw [observed.registry]
      exact observed.inventory.coherent coherent
  | remove storeId request clock eventId =>
      apply committed
      rintro ⟨answer,inventory⟩ accepted
      exact (acceptAuthoritativeRemoval_advance accepted).coherent coherent
  | apply transitionId now =>
      exact committed fun inventory applied => applyTransition_coherent coherent applied
  | applyFails transitionId error now => exact failTransition_coherent coherent
  | redeliver transitionId =>
      exact committed fun inventory redelivered => redeliverTransition_coherent coherent redelivered
  | rebuild now =>
      apply committed
      rintro ⟨count,inventory,connectivity⟩ rebuilt
      exact rebuildInventoryProjection_coherent coherent rebuilt
  | elsewhere surroundings =>
      obtain ⟨⟨chained,placed,numbered,wellFormed,zoned⟩,published,applied,projected⟩ := coherent
      exact ⟨⟨chained,placed,numbered,wellFormed,zoned⟩,published,applied,projected⟩

theorem pipeline_coherent {platform : Platform} {settings : Settings} {state : PipelineState}
    (reachable : (pipeline platform settings).Reachable state) : state.Coherent := by
  refine Machine.Reachable.invariant ?_ ?_ reachable
  · intro state initial
    have empty : state.database.inventory = Inventory.empty := initial
    rw [PipelineState.Coherent,empty]
    exact Inventory.empty_coherent _
  · intro state event after coherent taken
    cases taken
    exact state.next_coherent event coherent

end Machine

section Conservation

def Inventory.pendingChange (inventory : Inventory) (bucket : Bucket) : ℤ :=
  inventory.transitions.total fun transition =>
    if transition.pending then transition.change bucket else 0

def Inventory.unreconciledChange (inventory : Inventory) (bucket : Bucket) : ℤ :=
  inventory.transitions.total fun transition =>
    if transition.unreconciled then transition.change bucket else 0

theorem change_by_status (transition : InventoryTransitionOutbox) (bucket : Bucket) :
    transition.change bucket =
      (if transition.settled then transition.change bucket else 0) +
        (if transition.pending then transition.change bucket else 0) +
        (if transition.unreconciled then transition.change bucket else 0) := by
  cases status : transition.status with
  | pending =>
      simp [InventoryTransitionOutbox.settled,InventoryTransitionOutbox.pending,
        InventoryTransitionOutbox.unreconciled,status]
  | published publishedAt =>
      simp [InventoryTransitionOutbox.settled,InventoryTransitionOutbox.pending,
        InventoryTransitionOutbox.unreconciled,status]
  | quarantined quarantinedAt reconciled =>
      cases reconciled <;>
        simp [InventoryTransitionOutbox.settled,InventoryTransitionOutbox.pending,
          InventoryTransitionOutbox.unreconciled,status]

theorem Inventory.Coherent.conserved {registry : Registry} {inventory : Inventory}
    (coherent : inventory.Coherent registry) (bucket : Bucket) :
    inventory.quantity bucket + inventory.pendingChange bucket +
      inventory.unreconciledChange bucket = (inventory.locatedCount bucket : ℤ) := by
  rw [coherent.projected,Inventory.pendingChange,Inventory.unreconciledChange,← Table.total_add,
    ← Table.total_add,← coherent.total_change bucket]
  apply Table.total_congr
  intro transition _
  exact (change_by_status transition bucket).symm

/-- Inventory conservation: projected, pending and unreconciled units of a bucket add up to the
items located in it, and the outbox versions of every item run from one to its version. -/
theorem inventory_conserved (platform : Platform) (settings : Settings) {state : PipelineState}
    (reachable : (pipeline platform settings).Reachable state) :
    (∀ bucket, state.database.inventory.quantity bucket +
        state.database.inventory.pendingChange bucket +
        state.database.inventory.unreconciledChange bucket =
      (state.database.inventory.locatedCount bucket : ℤ)) ∧
    ∀ item ∈ state.database.inventory.items.rows,
      (state.database.inventory.rowsOf item.epc).map InventoryTransitionOutbox.stateVersion =
        List.range' 1 item.stateVersion := by
  have coherent := pipeline_coherent reachable
  refine ⟨coherent.conserved,?_⟩
  intro item member
  rw [coherent.numbered item.epc,Inventory.version,Table.find?_of_mem member]
  rfl

namespace Sample

def start : PipelineState where
  database := accept (accept database backroomReader "a" 1000000 100) floorReader "b" 20000000 101
  recent := emptyRecent

/-- A tag is found in the backroom, that is projected, it moves to the floor, and the transition of
the move is quarantined. -/
def quarantinedMove : List PipelineEvent :=
  [.observe (read backroomReader backroomId "a" 1000000 100) (clock 1000000) 200 300,
   .apply 1009 2000000,
   .observe (read floorReader floorId "b" 20000000 101) (clock 20000000) 201 301,
   .applyFails 2009 "RuntimeError: lost connection" 30000000]

def quarantined : PipelineState :=
  ((pipeline platform settings).run start quarantinedMove).getD start

end Sample

theorem inventory_conserved_sample :
    Sample.quarantined.database.inventory.unreconciledChange Sample.floor = 1 ∧
    Sample.quarantined.database.inventory.locatedCount Sample.floor = 1 ∧
    (∀ bucket, Sample.quarantined.database.inventory.quantity bucket +
        Sample.quarantined.database.inventory.pendingChange bucket +
        Sample.quarantined.database.inventory.unreconciledChange bucket =
      (Sample.quarantined.database.inventory.locatedCount bucket : ℤ)) ∧
    ∀ item ∈ Sample.quarantined.database.inventory.items.rows,
      (Sample.quarantined.database.inventory.rowsOf item.epc).map
        InventoryTransitionOutbox.stateVersion = List.range' 1 item.stateVersion :=
  ⟨by decide +kernel,by decide +kernel,
    inventory_conserved Sample.platform Sample.settings
      ⟨Sample.start,Sample.quarantinedMove,rfl,rfl⟩⟩

end Conservation

end Abacus

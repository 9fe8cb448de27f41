import Abacus.Inventory.Drift

/-! A projection rebuild among concurrent transactions.
The rebuild holds the tenant's advisory lock, so no delta is applied while it runs, but
observations, removals and failed attempts commit between any two of its statements.
-/
set_option autoImplicit false

namespace Abacus

open Relational (Table)
open Transition (Machine)

section Interleaving

structure RebuildState where
  pipeline : PipelineState
  phase : RebuildPhase

inductive RebuildEvent where
  | other (event : PipelineEvent)
  | rebuild (statement : RebuildStatement)
  | commit

/-- The connectivity row is one that the transaction locks for its update. A quarantine locks every
row it degrades, also when it leaves the row as it was. -/
def PipelineState.writesConnectivity (platform : Platform) (settings : Settings)
    (state : PipelineState) (event : PipelineEvent) (storeId : Uuid) : Bool :=
  match state.quarantines settings event with
  | some transition =>
      state.database.connectivity.rows.any fun row => decide (row.storeId = storeId) &&
        affectedStore state.database.connectivity
          (transitionStoreIds state.database.inventory transition) row
  | none =>
      decide ((state.next platform settings event).database.connectivity.find? storeId ≠
        state.database.connectivity.find? storeId)

def RebuildPhase.lockedStores : RebuildPhase → List Uuid
  | .cleared _ _ _ _ storeIds => storeIds
  | _ => []

def RebuildPhase.running : RebuildPhase → Bool
  | .idle => false
  | _ => true

/-- A transaction that needs a lock of the running rebuild commits after it. -/
def RebuildState.waits (platform : Platform) (settings : Settings) (state : RebuildState)
    (event : PipelineEvent) : Bool :=
  state.phase.running && (event.takesProjectionLock || state.phase.lockedStores.any fun storeId =>
    state.pipeline.writesConnectivity platform settings event storeId)

/-- The snapshot of a rebuild whose commit succeeds, and the database after it. -/
def RebuildState.committed (state : RebuildState) : Option (Inventory × Database) :=
  match state.phase with
  | .cleared snapshot rows transitionIds reconciledAt storeIds =>
      match commitRebuild state.pipeline.database.inventory state.pipeline.database.connectivity rows
          transitionIds reconciledAt storeIds with
      | .ok (inventory,connectivity) =>
          some (snapshot,{ state.pipeline.database with inventory, connectivity })
      | .error _ => none
  | _ => none

def RebuildState.commit (state : RebuildState) : Option RebuildState :=
  match state.phase with
  | .cleared _ _ _ _ _ =>
      match state.committed with
      | some (_,database) => some ⟨{ state.pipeline with database },.idle⟩
      | none => some ⟨state.pipeline,.idle⟩
  | _ => none

/-- A rebuild that starts at any point of any run of the pipeline. -/
def rebuilding (platform : Platform) (settings : Settings) : Machine RebuildState RebuildEvent where
  initial state := (pipeline platform settings).Reachable state.pipeline ∧ state.phase = .idle
  next state
    | .other event =>
        if state.waits platform settings event then none
        else some ⟨state.pipeline.next platform settings event,state.phase⟩
    | .rebuild statement =>
        (state.phase.next state.pipeline.database.inventory state.pipeline.database.connectivity
          statement).map fun phase => ⟨state.pipeline,phase⟩
    | .commit => state.commit

/-- The item query saw the item version that the transition wrote. -/
def Inventory.counts (snapshot : Inventory) (transition : InventoryTransitionOutbox) : Bool :=
  (snapshot.transitions.find? transition.transitionId).isSome

/-- From the item query to the connectivity update. -/
def RebuildPhase.window : RebuildPhase → Option Inventory
  | .adding snapshot _ _ _ => some snapshot
  | .recounted snapshot _ => some snapshot
  | .reconciled snapshot _ _ _ => some snapshot
  | _ => none

/-- No transition that the item query missed is quarantined between the item query and the
connectivity update of one rebuild. -/
def coversQuarantines (settings : Settings) (state : RebuildState) : RebuildEvent → Prop
  | .other event => ∀ snapshot ∈ state.phase.window, ∀ transition ∈
      state.pipeline.quarantines settings event, snapshot.counts transition = true
  | _ => True

instance decidableCoversQuarantines (settings : Settings) (state : RebuildState) :
    ∀ event, Decidable (coversQuarantines settings state event)
  | .other event => inferInstanceAs (Decidable (∀ snapshot ∈ state.phase.window, ∀ transition ∈
      state.pipeline.quarantines settings event, snapshot.counts transition = true))
  | .rebuild _ => isTrue trivial
  | .commit => isTrue trivial

def InventoryTransitionOutbox.isReconciled (transition : InventoryTransitionOutbox) : Bool :=
  match transition.status with
  | .quarantined _ (some _) => true
  | _ => false

/-- What a committed rebuild reports as settled is in the projection that it built from the
snapshot. -/
structure Database.ReconcilesCounted (snapshot : Inventory) (before after : Database) : Prop where
  projected : ∀ bucket, after.inventory.quantity bucket =
    after.inventory.transitions.total fun transition =>
      if snapshot.counts transition then transition.change bucket else 0
  reconciled : ∀ transition ∈ after.inventory.transitions.rows, transition.isReconciled = true →
    snapshot.counts transition = true
  cleared : ∀ old ∈ before.connectivity.rows, ∀ new ∈ after.connectivity.rows,
    new.storeId = old.storeId → old.inventoryReconciliationRequiredAt ≠ none →
    new.inventoryReconciliationRequiredAt = none →
    ∀ transition ∈ after.inventory.transitions.rows, transition.isQuarantined = true →
      (∃ delta ∈ transition.events, delta.storeId = new.storeId) →
      snapshot.counts transition = true
  removed : ∀ event ∈ after.inventory.businessEvents.rows,
    businessEventStatus after.inventory event = .projected →
    ∃ transition, after.inventory.transitions.find? event.transitionId = some transition ∧
      snapshot.counts transition = true

end Interleaving

section Counting

/-- A running rebuild after its item query. `outside` says which uncounted transitions may be
quarantined. -/
structure Inventory.Rebuilding (snapshot inventory : Inventory)
    (outside : InventoryTransitionOutbox → Prop) : Prop where
  census : ∀ bucket, (snapshot.transitions.total fun transition => transition.change bucket) =
    (snapshot.locatedCount bucket : ℤ)
  entries : snapshot.entries <+: inventory.entries
  finished : ∀ row ∈ inventory.transitions.rows, row.pending = false →
    snapshot.counts row = true ∨ (row.unreconciled = true ∧ outside row)

/-- The second count found no pending row. -/
def Inventory.Settled (snapshot inventory : Inventory) : Prop :=
  ∀ row ∈ inventory.transitions.rows, snapshot.counts row = true → row.pending = false

structure Inventory.Chosen (snapshot inventory : Inventory) (transitionIds : List Uuid) : Prop where
  listed : ∀ id ∈ transitionIds, (snapshot.transitions.find? id).isSome = true
  chosen : ∀ row ∈ inventory.transitions.rows, snapshot.counts row = true →
    (row.transitionId ∈ transitionIds ↔ row.unreconciled = true)

variable {snapshot inventory after : Inventory} {outside : InventoryTransitionOutbox → Prop}
  {quarantined : Option InventoryTransitionOutbox}

theorem counts_of_entry (snapshot : Inventory) {left right : InventoryTransitionOutbox} (same : left.entry = right.entry) :
    snapshot.counts left = snapshot.counts right := by
  have keyed : left.transitionId = right.transitionId := congrArg TransitionEntry.transitionId same
  rw [Inventory.counts,Inventory.counts,keyed]

theorem unreconciled_not_pending {row : InventoryTransitionOutbox}
    (unreconciled : row.unreconciled = true) : row.pending = false := by
  cases status : row.status <;>
    simp_all [InventoryTransitionOutbox.unreconciled,InventoryTransitionOutbox.pending]

theorem Inventory.Rebuilding.drifts (rebuilding : snapshot.Rebuilding inventory outside)
    (drifts : inventory.Drifts after quarantined)
    (covered : ∀ row, ∀ old ∈ quarantined, row.entry = old.entry →
      snapshot.counts old = true ∨ outside row) : snapshot.Rebuilding after outside where
  census := rebuilding.census
  entries := rebuilding.entries.trans drifts.entries
  finished row member finished := by
    rcases drifts.finished row member finished with stored | ⟨old,chosen,same,unreconciled⟩
    · exact rebuilding.finished row stored finished
    · rcases covered row old chosen same with counted | apart
      · rw [counts_of_entry snapshot same]
        exact .inl counted
      · exact .inr ⟨unreconciled,apart⟩

theorem Inventory.Rebuilding.weaken (rebuilding : snapshot.Rebuilding inventory fun _ => False)
    (outside : InventoryTransitionOutbox → Prop) : snapshot.Rebuilding inventory outside where
  census := rebuilding.census
  entries := rebuilding.entries
  finished row member finished := by
    rcases rebuilding.finished row member finished with counted | ⟨-,nothing⟩
    · exact .inl counted
    · exact nothing.elim

/-- Every row that the item query counted is still there. -/
theorem Inventory.Rebuilding.kept (rebuilding : snapshot.Rebuilding inventory outside) {id : Uuid}
    (listed : (snapshot.transitions.find? id).isSome = true) :
    inventory.transitions.find? id ≠ none := by
  obtain ⟨row,found⟩ := Option.isSome_iff_exists.mp listed
  have stored := List.mem_map_of_mem (f := InventoryTransitionOutbox.entry) (Table.mem_of_find? found)
  obtain ⟨later,member,same⟩ := List.mem_map.mp (rebuilding.entries.subset stored)
  have here : row.transitionId = id := Table.key_of_find? found
  have keyed : later.transitionId = id :=
    (congrArg TransitionEntry.transitionId same).trans here
  rw [← keyed,Table.find?_of_mem member]
  exact Option.some_ne_none later

/-- Nothing changes a counted row once the second count found none of them pending. -/
theorem Inventory.Rebuilding.frozen (rebuilding : snapshot.Rebuilding inventory outside)
    (settled : snapshot.Settled inventory) (drifts : inventory.Drifts after quarantined)
    (waiting : ∀ old ∈ quarantined, old ∈ inventory.transitions.rows ∧ old.pending = true)
    {row : InventoryTransitionOutbox} (member : row ∈ after.transitions.rows)
    (counted : snapshot.counts row = true) : row ∈ inventory.transitions.rows := by
  cases pending : row.pending with
  | true =>
      rcases drifts.waiting row member pending with ⟨old,stored,same,oldPending⟩ | ⟨fresh,-⟩
      · have oldCounted : snapshot.counts old = true := (counts_of_entry snapshot same).trans counted
        rw [settled old stored oldCounted] at oldPending
        cases oldPending
      · exact absurd fresh (rebuilding.kept counted)
  | false =>
      rcases drifts.finished row member pending with stored | ⟨old,chosen,same,-⟩
      · exact stored
      · obtain ⟨stored,oldPending⟩ := waiting old chosen
        rw [settled old stored ((counts_of_entry snapshot same).symm.trans counted)] at oldPending
        cases oldPending

/-- The counted rows carry exactly the effect of the snapshot's outbox. -/
theorem Inventory.Rebuilding.total (rebuilding : snapshot.Rebuilding inventory outside)
    (bucket : Bucket) :
    (inventory.transitions.total fun row => if snapshot.counts row then row.change bucket else 0) =
      (snapshot.locatedCount bucket : ℤ) := by
  obtain ⟨rest,split⟩ := rebuilding.entries
  obtain ⟨early,late,rows,first,-⟩ := List.map_eq_append_iff.mp split.symm
  have distinct := inventory.transitions.unique
  rw [rows,List.map_append,List.nodup_append] at distinct
  have keys : early.map InventoryTransitionOutbox.transitionId =
      snapshot.transitions.rows.map InventoryTransitionOutbox.transitionId :=
    map_eq_of_map_eq (fun _ _ same => congrArg TransitionEntry.transitionId same) first
  have earlyCounted : ∀ row ∈ early, snapshot.counts row = true := by
    intro row member
    have listed := List.mem_map_of_mem (f := InventoryTransitionOutbox.transitionId) member
    rw [keys] at listed
    obtain ⟨old,stored,same⟩ := List.mem_map.mp listed
    rw [Inventory.counts,← same,Table.find?_of_mem stored]
    rfl
  have lateUncounted : ∀ row ∈ late, snapshot.counts row = false := by
    intro row member
    cases counted : snapshot.counts row with
    | false => rfl
    | true =>
        obtain ⟨old,found⟩ := Option.isSome_iff_exists.mp counted
        have listed := List.mem_map_of_mem (f := InventoryTransitionOutbox.transitionId)
          (Table.mem_of_find? found)
        rw [← keys,Table.key_of_find? found] at listed
        exact absurd rfl (distinct.2.2 _ listed _ (List.mem_map_of_mem member))
  rw [← rebuilding.census bucket,Table.total,rows,List.map_append,List.sum_append]
  have nothing : (late.map fun row =>
      if snapshot.counts row then row.change bucket else 0).sum = 0 := by
    apply List.sum_eq_zero
    intro value member
    obtain ⟨row,place,rfl⟩ := List.mem_map.mp member
    rw [lateUncounted row place,if_neg Bool.false_ne_true]
  have everything : (early.map fun row => if snapshot.counts row then row.change bucket else 0) =
      snapshot.transitions.rows.map fun row => row.change bucket := by
    have same : early.map (fun row => row.change bucket) =
        snapshot.transitions.rows.map fun row => row.change bucket :=
      map_eq_of_map_eq (fun _ _ same => change_of_entry same bucket) first
    rw [← same]
    apply List.map_congr_left
    intro row member
    rw [earlyCounted row member,if_pos rfl]
  rw [nothing,everything,add_zero]
  rfl

end Counting

section Committing

variable {snapshot inventory : Inventory} {rows : List InventoryProjection}
  {transitionIds storeIds : List Uuid} {reconciledAt : Time}

def awayFrom (storeIds : List Uuid) (transition : InventoryTransitionOutbox) : Prop :=
  ∀ delta ∈ transition.events, delta.storeId ∉ storeIds

/-- A rebuild that only its commit is missing from. -/
structure Inventory.Rebuilt (snapshot inventory : Inventory) (rows : List InventoryProjection)
    (transitionIds storeIds : List Uuid) : Prop where
  rebuilding : snapshot.Rebuilding inventory (awayFrom storeIds)
  settled : snapshot.Settled inventory
  chosen : snapshot.Chosen inventory transitionIds
  tallied : rows.map InventoryProjection.tally =
    (locatedGroups snapshot.items).rows.map groupTally

def reconciledRow (transitionIds : List Uuid) (reconciledAt : Time)
    (row : InventoryTransitionOutbox) : InventoryTransitionOutbox :=
  if decide (row.transitionId ∈ transitionIds) then row.reconcile reconciledAt else row

theorem reconciledRow_entry (transitionIds : List Uuid) (reconciledAt : Time)
    (row : InventoryTransitionOutbox) :
    (reconciledRow transitionIds reconciledAt row).entry = row.entry := by
  unfold reconciledRow
  split <;> rfl

theorem reconciledRow_pending (transitionIds : List Uuid) (reconciledAt : Time)
    (row : InventoryTransitionOutbox) :
    (reconciledRow transitionIds reconciledAt row).pending = row.pending := by
  unfold reconciledRow
  split
  · cases status : row.status with
    | quarantined quarantinedAt reconciled =>
        cases reconciled <;>
          simp [InventoryTransitionOutbox.pending,InventoryTransitionOutbox.reconcile,status]
    | _ => simp [InventoryTransitionOutbox.pending,InventoryTransitionOutbox.reconcile,status]
  · rfl

/-- After the commit exactly the counted transitions are settled. -/
theorem Inventory.Rebuilt.settled_iff (rebuilt : snapshot.Rebuilt inventory rows transitionIds storeIds)
    {row : InventoryTransitionOutbox} (member : row ∈ inventory.transitions.rows) :
    (reconciledRow transitionIds reconciledAt row).settled = snapshot.counts row := by
  cases counted : snapshot.counts row with
  | true =>
      have finished := rebuilt.settled row member counted
      have listed := rebuilt.chosen.chosen row member counted
      have reconciled := reconcile_settled row reconciledAt finished
      unfold reconciledRow
      by_cases chosen : row.unreconciled = true
      · rw [if_pos chosen] at reconciled
        rw [if_pos (by simpa using listed.mpr chosen)]
        exact reconciled
      · rw [if_neg chosen] at reconciled
        rw [if_neg (by simpa using fun inside => chosen (listed.mp inside))]
        exact reconciled
  | false =>
      have kept : reconciledRow transitionIds reconciledAt row = row := by
        refine if_neg ?_
        simp only [decide_eq_true_eq]
        intro inside
        have present : snapshot.counts row = true := rebuilt.chosen.listed _ inside
        rw [counted] at present
        cases present
      rw [kept]
      cases pending : row.pending with
      | true => exact (pending_not_settled pending).2
      | false =>
          rcases rebuilt.rebuilding.finished row member pending with inside | ⟨unreconciled,-⟩
          · rw [counted] at inside
            cases inside
          · cases status : row.status with
            | quarantined quarantinedAt reconciled =>
                cases reconciled <;>
                  simp_all [InventoryTransitionOutbox.unreconciled,InventoryTransitionOutbox.settled]
            | _ => simp [InventoryTransitionOutbox.unreconciled,status] at unreconciled

theorem settled_of_reconciled {row : InventoryTransitionOutbox} (reconciled : row.isReconciled = true) :
    row.settled = true := by
  cases status : row.status with
  | quarantined quarantinedAt reconciled' =>
      cases reconciled' <;>
        simp_all [InventoryTransitionOutbox.isReconciled,InventoryTransitionOutbox.settled]
  | _ => simp [InventoryTransitionOutbox.isReconciled,status] at reconciled

theorem businessEventStatus_projected {inventory : Inventory} {event : BusinessEvent}
    (projected : businessEventStatus inventory event = .projected) :
    ∃ transition, inventory.transitions.find? event.transitionId = some transition ∧
      transition.settled = true := by
  unfold businessEventStatus at projected
  cases found : inventory.transitions.find? event.transitionId with
  | none => simp [found] at projected
  | some transition =>
      refine ⟨transition,rfl,?_⟩
      cases status : transition.status with
      | pending => simp [found,status] at projected
      | published publishedAt => simp [InventoryTransitionOutbox.settled,status]
      | quarantined quarantinedAt reconciled =>
          cases reconciled with
          | none => simp [found,status] at projected
          | some reconciledAt => simp [InventoryTransitionOutbox.settled,status]

variable {before : Database} {inventory : Inventory} {connectivity : Connectivity}

/-- The commit of a rebuild that counted what it reconciles. -/
theorem Inventory.Rebuilt.commit
    (rebuilt : snapshot.Rebuilt before.inventory rows transitionIds storeIds)
    (coherent : before.inventory.Coherent before.registry)
    (committed : commitRebuild before.inventory before.connectivity rows transitionIds reconciledAt
      storeIds = .ok (inventory,connectivity)) :
    inventory.Coherent before.registry ∧
      before.ReconcilesCounted snapshot { before with inventory, connectivity } := by
  obtain ⟨projections,inserted,result⟩ := bind_eq_ok.mp committed
  cases result
  have appended : projections.rows = rows := by
    have appended := (Table.insertMany_eq_some (orIntegrityError_eq_ok.mp inserted)).1
    simpa [Table.deleteWhere] using appended
  have quantity : ∀ bucket, projectedQuantity projections bucket =
      before.inventory.transitions.total fun row =>
        if snapshot.counts row then row.change bucket else 0 := by
    intro bucket
    rw [rebuilt.rebuilding.total bucket]
    exact tallied_quantity (by rw [appended]; exact rebuilt.tallied) bucket
  have settledAfter : ∀ row ∈ (reconcileTransitions before.inventory.transitions
      (fun row => decide (row.transitionId ∈ transitionIds)) reconciledAt).rows,
      row.settled = snapshot.counts row := by
    intro row member
    obtain ⟨old,stored,rfl⟩ := List.mem_map.mp member
    exact (rebuilt.settled_iff stored).trans
      (counts_of_entry snapshot (reconciledRow_entry transitionIds reconciledAt old)).symm
  refine ⟨?_,?_,?_,?_,?_⟩
  · apply coherent.reconcile
    intro bucket
    rw [quantity]
    apply Table.total_congr
    intro row stored
    have same : (if decide (row.transitionId ∈ transitionIds) then row.reconcile reconciledAt
        else row).settled = snapshot.counts row := rebuilt.settled_iff stored
    rw [same]
  · intro bucket
    change projectedQuantity projections bucket = _
    rw [quantity,reconcileTransitions,Table.total_updateWhere]
    apply Table.total_congr
    intro row _
    have same := reconciledRow_entry transitionIds reconciledAt row
    have counted := counts_of_entry snapshot same
    have change := change_of_entry same bucket
    unfold reconciledRow at counted change
    rw [counted,change]
  · intro row member reconciled
    rw [← settledAfter row member]
    exact settled_of_reconciled reconciled
  · intro old oldMember new newMember sameStore required cleared row member quarantined concerned
    obtain ⟨stored,place,rfl⟩ := List.mem_map.mp newMember
    obtain ⟨owner,owned,rfl⟩ := List.mem_map.mp member
    have inside : stored.storeId ∈ storeIds := by
      by_contra away
      have kept : stored.storeId = old.storeId := by simpa [away] using sameStore
      rw [before.connectivity.eq_of_key place oldMember kept] at cleared away
      exact required (by simpa [away] using cleared)
    have entry := reconciledRow_entry transitionIds reconciledAt owner
    have finished : owner.pending = false := by
      rw [← reconciledRow_pending transitionIds reconciledAt]
      exact not_pending_of_quarantined quarantined
    rcases rebuilt.rebuilding.finished owner owned finished with counted | ⟨-,away⟩
    · exact (counts_of_entry snapshot entry).trans counted
    · obtain ⟨delta,event,store⟩ := concerned
      have listed : delta ∈ owner.events := by
        rw [← events_of_entry entry]
        exact event
      refine absurd ?_ (away delta listed)
      rw [store]
      simp [inside]
  · intro event member projected
    obtain ⟨transition,found,settled⟩ := businessEventStatus_projected projected
    exact ⟨transition,found,(settledAfter transition (Table.mem_of_find? found)).symm.trans settled⟩

end Committing

section Running

variable {platform : Platform} {settings : Settings}

theorem failTransition_connectivity (inventory : Inventory) (connectivity : Connectivity)
    (transitionId : Uuid) (error : String) (now : Time) (storeId : Uuid) :
    ((failTransition settings connectivity inventory transitionId error now).2.find? storeId).isSome =
      (connectivity.find? storeId).isSome := by
  unfold failTransition
  split
  · rfl
  · dsimp only
    split
    · simp only [quarantineTransition,Table.find?_updateWhere,Option.isSome_map]
    · rfl

/-- A locked row is still there after a transaction that did not wait for it. -/
theorem PipelineState.next_present {state : PipelineState} {event : PipelineEvent} {storeId : Uuid}
    (present : (state.database.connectivity.find? storeId).isSome = true)
    (untouched : state.writesConnectivity platform settings event storeId = false) :
    ((state.next platform settings event).database.connectivity.find? storeId).isSome = true := by
  cases chosen : state.quarantines settings event with
  | none =>
      rw [PipelineState.writesConnectivity,chosen] at untouched
      have same := of_decide_eq_false untouched
      rw [not_not.mp same]
      exact present
  | some transition =>
      cases event with
      | applyFails transitionId error now =>
          exact (failTransition_connectivity _ _ transitionId error now storeId).trans present
      | _ => cases chosen

/-- A quarantine that does not wait for the locked rows has no delta for their stores. -/
theorem PipelineState.quarantines_awayFrom {state : PipelineState} {event : PipelineEvent}
    {storeIds : List Uuid} {transition : InventoryTransitionOutbox}
    (chosen : transition ∈ state.quarantines settings event)
    (present : ∀ storeId ∈ storeIds, (state.database.connectivity.find? storeId).isSome = true)
    (untouched : ∀ storeId ∈ storeIds,
      state.writesConnectivity platform settings event storeId = false) :
    awayFrom storeIds transition := by
  intro delta event' inside
  obtain ⟨row,found⟩ := Option.isSome_iff_exists.mp (present _ inside)
  have keyed : row.storeId = delta.storeId := Table.key_of_find? found
  have named : row.storeId ∈ transitionStoreIds state.database.inventory transition := by
    obtain ⟨payload,listed,same⟩ := List.mem_filterMap.mp event'
    refine List.mem_append_left _ (List.mem_filterMap.mpr ⟨payload,listed,?_⟩)
    cases payload with
    | event delta' => cases same; exact congrArg some keyed.symm
    | invalid storeId => cases same
  have affected : affectedStore state.database.connectivity
      (transitionStoreIds state.database.inventory transition) row = true := by
    unfold affectedStore
    split
    · simpa using named
    · rfl
  have written := untouched _ inside
  rw [PipelineState.writesConnectivity,Option.mem_def.mp chosen] at written
  refine Bool.false_ne_true (written.symm.trans ?_)
  exact List.any_eq_true.mpr ⟨row,Table.mem_of_find? found,by simp [keyed,affected]⟩

def RebuildPhase.Holds (inventory : Inventory) (connectivity : Connectivity) : RebuildPhase → Prop
  | .adding snapshot remaining rows _ =>
      snapshot.Rebuilding inventory (fun _ => False) ∧
        rows.map InventoryProjection.tally ++ remaining.map groupTally =
          (locatedGroups snapshot.items).rows.map groupTally
  | .recounted snapshot rows =>
      snapshot.Rebuilding inventory (fun _ => False) ∧ snapshot.Settled inventory ∧
        rows.map InventoryProjection.tally = (locatedGroups snapshot.items).rows.map groupTally
  | .reconciled snapshot rows transitionIds _ =>
      snapshot.Rebuilding inventory (fun _ => False) ∧
        snapshot.Rebuilt inventory rows transitionIds []
  | .cleared snapshot rows transitionIds _ storeIds =>
      snapshot.Rebuilt inventory rows transitionIds storeIds ∧
        ∀ storeId ∈ storeIds, (connectivity.find? storeId).isSome = true
  | _ => True

def RebuildState.Holds (state : RebuildState) : Prop :=
  state.pipeline.Coherent ∧
    state.phase.Holds state.pipeline.database.inventory state.pipeline.database.connectivity

variable {snapshot inventory after : Inventory} {quarantined : Option InventoryTransitionOutbox}

theorem Inventory.Settled.drifts {outside : InventoryTransitionOutbox → Prop}
    (settled : snapshot.Settled inventory) (rebuilding : snapshot.Rebuilding inventory outside)
    (drifts : inventory.Drifts after quarantined)
    (waiting : ∀ old ∈ quarantined, old ∈ inventory.transitions.rows ∧ old.pending = true) :
    snapshot.Settled after := by
  intro row member counted
  exact settled row (rebuilding.frozen settled drifts waiting member counted) counted

theorem Inventory.Rebuilt.drifts {rows : List InventoryProjection} {transitionIds storeIds : List Uuid}
    (rebuilt : snapshot.Rebuilt inventory rows transitionIds storeIds)
    (drifts : inventory.Drifts after quarantined)
    (waiting : ∀ old ∈ quarantined, old ∈ inventory.transitions.rows ∧ old.pending = true)
    (covered : ∀ old ∈ quarantined, snapshot.counts old = true ∨ awayFrom storeIds old) :
    snapshot.Rebuilt after rows transitionIds storeIds where
  rebuilding := rebuilt.rebuilding.drifts drifts fun row old chosen same => by
    rcases covered old chosen with counted | away
    · exact .inl counted
    · refine .inr ?_
      unfold awayFrom at away ⊢
      rw [events_of_entry same]
      exact away
  settled := rebuilt.settled.drifts rebuilt.rebuilding drifts waiting
  chosen := {
    listed := rebuilt.chosen.listed
    chosen := fun row member counted => rebuilt.chosen.chosen row
      (rebuilt.rebuilding.frozen rebuilt.settled drifts waiting member counted) counted }
  tallied := rebuilt.tallied

/-- A committed transaction of somebody else. -/
theorem RebuildState.Holds.other {state : RebuildState} {event : PipelineEvent} (holds : state.Holds)
    (covered : coversQuarantines settings state (.other event))
    (free : state.waits platform settings event = false) :
    RebuildState.Holds ⟨state.pipeline.next platform settings event,state.phase⟩ := by
  obtain ⟨coherent,phase⟩ := holds
  refine ⟨state.pipeline.next_coherent event coherent,?_⟩
  have waiting : ∀ old ∈ state.pipeline.quarantines settings event,
      old ∈ state.pipeline.database.inventory.transitions.rows ∧ old.pending = true :=
    fun old chosen => PipelineState.quarantines_pending chosen
  have drifts : state.phase.running = true →
      state.pipeline.database.inventory.Drifts
        (state.pipeline.next platform settings event).database.inventory
        (state.pipeline.quarantines settings event) := by
    intro running
    apply state.pipeline.next_drifts platform settings
    rw [RebuildState.waits,running,Bool.true_and,Bool.or_eq_false_iff] at free
    exact free.1
  cases current : state.phase with
  | idle => trivial
  | locked => trivial
  | counted => trivial
  | deleted => trivial
  | adding snapshot remaining rows loaded =>
      simp only [current,RebuildPhase.running,true_implies] at drifts
      rw [current] at phase
      have counted := covered snapshot (by rw [current]; rfl)
      exact ⟨phase.1.drifts drifts fun row old chosen _ => .inl (counted old chosen),phase.2⟩
  | recounted snapshot rows =>
      simp only [current,RebuildPhase.running,true_implies] at drifts
      rw [current] at phase
      have counted := covered snapshot (by rw [current]; rfl)
      exact ⟨phase.1.drifts drifts fun row old chosen _ => .inl (counted old chosen),
        phase.2.1.drifts phase.1 drifts waiting,phase.2.2⟩
  | reconciled snapshot rows transitionIds reconciledAt =>
      simp only [current,RebuildPhase.running,true_implies] at drifts
      rw [current] at phase
      have counted := covered snapshot (by rw [current]; rfl)
      exact ⟨phase.1.drifts drifts fun row old chosen _ => .inl (counted old chosen),
        phase.2.drifts drifts waiting fun old chosen => .inl (counted old chosen)⟩
  | cleared snapshot rows transitionIds reconciledAt storeIds =>
      simp only [current,RebuildPhase.running,true_implies] at drifts
      rw [current] at phase
      obtain ⟨rebuilt,present⟩ := phase
      have untouched : ∀ storeId ∈ storeIds,
          state.pipeline.writesConnectivity platform settings event storeId = false := by
        rw [RebuildState.waits,current] at free
        simp only [RebuildPhase.running,RebuildPhase.lockedStores,Bool.true_and,
          Bool.or_eq_false_iff,List.any_eq_false] at free
        intro storeId inside
        simpa using free.2 storeId inside
      refine ⟨rebuilt.drifts drifts waiting fun old chosen =>
        .inr (PipelineState.quarantines_awayFrom chosen present untouched),?_⟩
      intro storeId inside
      exact PipelineState.next_present (present storeId inside) (untouched storeId inside)

/-- A statement of the rebuild. -/
theorem RebuildState.Holds.rebuild {pipeline : PipelineState} {phase after : RebuildPhase}
    {statement : RebuildStatement} (holds : RebuildState.Holds ⟨pipeline,phase⟩)
    (taken : phase.next pipeline.database.inventory pipeline.database.connectivity statement =
      some after) : RebuildState.Holds ⟨pipeline,after⟩ := by
  obtain ⟨coherent,here⟩ := holds
  refine ⟨coherent,?_⟩
  change after.Holds _ _
  cases statement with
  | abort => cases taken; trivial
  | lock => cases phase <;> cases taken; trivial
  | countBefore =>
      cases phase <;> cases taken
      split <;> trivial
  | delete => cases phase <;> cases taken; trivial
  | query =>
      cases phase <;> cases taken
      refine ⟨⟨coherent.total_change,List.prefix_refl _,?_⟩,rfl⟩
      intro row member _
      left
      rw [Inventory.counts,Table.find?_of_mem member]
      rfl
  | add =>
      cases phase with
      | adding snapshot remaining rows loaded =>
          cases remaining with
          | nil => cases taken
          | cons group remaining =>
              cases taken
              refine ⟨here.1,?_⟩
              rw [← here.2,List.map_append,List.append_assoc]
              rfl
      | _ => cases taken
  | countAfter =>
      cases phase with
      | adding snapshot remaining rows loaded =>
          cases remaining with
          | cons group remaining => cases taken
          | nil =>
              cases taken
              split
              · trivial
              · rename_i none_pending
                have finished := pendingCount_eq_zero.mp (not_not.mp none_pending)
                refine ⟨here.1,fun row member _ => finished row member,?_⟩
                simpa using here.2
      | _ => cases taken
  | reconcile reconciledAt =>
      cases phase with
      | recounted snapshot rows =>
          cases taken
          obtain ⟨rebuilding,settled,tallied⟩ := here
          refine ⟨rebuilding,rebuilding.weaken _,settled,⟨?_,?_⟩,tallied⟩
          · intro id inside
            obtain ⟨row,place,rfl⟩ := List.mem_map.mp inside
            obtain ⟨member,unreconciled⟩ := List.mem_filter.mp place
            rcases rebuilding.finished row member (unreconciled_not_pending unreconciled) with
              counted | ⟨-,nothing⟩
            · exact counted
            · exact nothing.elim
          · intro row member _
            constructor
            · intro inside
              obtain ⟨other,place,same⟩ := List.mem_map.mp inside
              obtain ⟨stored,unreconciled⟩ := List.mem_filter.mp place
              rw [← Table.eq_of_key _ stored member same]
              exact unreconciled
            · intro unreconciled
              exact List.mem_map_of_mem (List.mem_filter.mpr ⟨member,unreconciled⟩)
      | _ => cases taken
  | clear =>
      cases phase with
      | reconciled snapshot rows transitionIds reconciledAt =>
          cases taken
          obtain ⟨rebuilding,rebuilt⟩ := here
          refine ⟨⟨rebuilding.weaken _,rebuilt.settled,rebuilt.chosen,rebuilt.tallied⟩,?_⟩
          intro storeId inside
          obtain ⟨row,member,rfl⟩ := List.mem_map.mp inside
          rw [Table.find?_of_mem member]
          rfl
      | _ => cases taken

theorem RebuildState.Holds.committed {state : RebuildState} {snapshot : Inventory}
    {after : Database} (holds : state.Holds) (committed : state.committed = some (snapshot,after)) :
    after.inventory.Coherent after.registry ∧
      state.pipeline.database.ReconcilesCounted snapshot after := by
  obtain ⟨coherent,phase⟩ := holds
  unfold RebuildState.committed at committed
  split at committed
  · rename_i current
    rw [current] at phase
    split at committed
    · rename_i written
      cases committed
      exact phase.1.commit coherent written
    · cases committed
  · cases committed

theorem RebuildState.Holds.commit {state after : RebuildState} (holds : state.Holds)
    (taken : state.commit = some after) : after.Holds := by
  unfold RebuildState.commit at taken
  split at taken
  · split at taken
    · rename_i committed
      cases taken
      exact ⟨(holds.committed committed).1,trivial⟩
    · cases taken
      exact ⟨holds.1,trivial⟩
  · cases taken

theorem rebuilding_holds {state : RebuildState}
    (reachable : (rebuilding platform settings).ReachableWithin (coversQuarantines settings) state) :
    state.Holds := by
  refine Machine.ReachableWithin.invariant ?_ ?_ reachable
  · rintro ⟨pipeline,phase⟩ ⟨reached,idle⟩
    have nothing : phase = .idle := idle
    subst nothing
    exact ⟨pipeline_coherent reached,trivial⟩
  · intro state event after holds covered taken
    cases event with
    | other event =>
        simp only [rebuilding] at taken
        split at taken
        · cases taken
        · rename_i free
          cases taken
          exact holds.other covered (by simpa using free)
    | rebuild statement =>
        obtain ⟨phase,step,rfl⟩ := Option.map_eq_some_iff.mp taken
        exact RebuildState.Holds.rebuild holds step
    | commit => exact holds.commit taken

end Running

section Outcome

/-- A rebuild during which no transition is quarantined behind its item query's back reconciles only
what it counted. -/
theorem rebuild_reconciles_counted (platform : Platform) (settings : Settings) {state : RebuildState}
    (reachable : (rebuilding platform settings).ReachableWithin (coversQuarantines settings) state)
    {snapshot : Inventory} {after : Database}
    (committed : state.committed = some (snapshot,after)) :
    state.pipeline.database.ReconcilesCounted snapshot after :=
  ((rebuilding_holds reachable).committed committed).2

namespace Sample

/-- The tag is projected in the backroom; its move to the floor is recorded before the rebuild's item
query and quarantined after it. -/
def coveredQuarantine : List RebuildEvent :=
  [.other (.observe (read backroomReader backroomId "a" 1000000 100) (clock 1000000) 200 300),
   .other (.apply 1009 2000000),.rebuild .lock,.rebuild .countBefore,.rebuild .delete,
   .other (.observe (read floorReader floorId "b" 20000000 101) (clock 20000000) 201 301),
   .rebuild .query,.rebuild .add,
   .other (.applyFails 2009 "OperationalError: lock timeout" 30000000),
   .rebuild .countAfter,.rebuild (.reconcile 31000000),.rebuild .clear]

/-- The same, with the move between the item query and the second count. -/
def missedQuarantine : List RebuildEvent :=
  [.other (.observe (read backroomReader backroomId "a" 1000000 100) (clock 1000000) 200 300),
   .other (.apply 1009 2000000),.rebuild .lock,.rebuild .countBefore,.rebuild .delete,
   .rebuild .query,.rebuild .add,
   .other (.observe (read floorReader floorId "b" 20000000 101) (clock 20000000) 201 301),
   .other (.applyFails 2009 "OperationalError: lock timeout" 30000000),
   .rebuild .countAfter,.rebuild (.reconcile 31000000),.rebuild .clear]

def beforeRebuild : RebuildState := ⟨start,.idle⟩

def rebuildRun (events : List RebuildEvent) : RebuildState :=
  ((rebuilding platform settings).run beforeRebuild events).getD beforeRebuild

def reportsOnlyCounted (outcome : Inventory × Database) : Bool :=
  outcome.2.inventory.transitions.rows.all fun transition =>
    !transition.isReconciled || outcome.1.counts transition

end Sample

theorem rebuild_reconciles_counted_sample :
    (Sample.rebuildRun Sample.coveredQuarantine).committed.isSome = true ∧
    ∀ outcome ∈ (Sample.rebuildRun Sample.coveredQuarantine).committed,
      (Sample.rebuildRun Sample.coveredQuarantine).pipeline.database.ReconcilesCounted outcome.1
        outcome.2 := by
  refine ⟨by decide +kernel,fun outcome committed => ?_⟩
  refine rebuild_reconciles_counted Sample.platform Sample.settings
    ⟨Sample.beforeRebuild,Sample.coveredQuarantine,?_,by decide +kernel,
      Machine.run_getD (by decide +kernel)⟩ committed
  exact ⟨⟨Sample.start,[],rfl,rfl⟩,rfl⟩

/-- A transition that is recorded and quarantined between the item query and the second count is
marked reconciled although the rebuilt projection lacks it. -/
theorem rebuild_misses_quarantined :
    ¬∀ state, (rebuilding Sample.platform Sample.settings).Reachable state →
      ∀ snapshot after, state.committed = some (snapshot,after) →
        state.pipeline.database.ReconcilesCounted snapshot after := by
  intro reconciles
  have reached : (rebuilding Sample.platform Sample.settings).Reachable
      (Sample.rebuildRun Sample.missedQuarantine) :=
    ⟨Sample.beforeRebuild,Sample.missedQuarantine,⟨⟨Sample.start,[],rfl,rfl⟩,rfl⟩,
      Machine.run_getD (by decide +kernel)⟩
  have present : (Sample.rebuildRun Sample.missedQuarantine).committed.isSome = true := by
    decide +kernel
  have missed : (Sample.rebuildRun Sample.missedQuarantine).committed.any
      Sample.reportsOnlyCounted = false := by decide +kernel
  obtain ⟨⟨snapshot,after⟩,committed⟩ := Option.isSome_iff_exists.mp present
  have sound := reconciles _ reached snapshot after committed
  rw [committed,Option.any_some] at missed
  have counted : Sample.reportsOnlyCounted (snapshot,after) = true := by
    rw [Sample.reportsOnlyCounted,List.all_eq_true]
    intro transition member
    cases reconciled : transition.isReconciled with
    | false => rfl
    | true => exact sound.reconciled transition member reconciled
  rw [counted] at missed
  cases missed

end Outcome

end Abacus

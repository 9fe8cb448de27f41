import Abacus.Inventory.Drift

/-! Worker passes apply each item's transitions in version order.
Then the published part of the outbox is, for every item, a first part of its moves. It is a chained
journal of its own, so no bucket of the projection is ever negative.
-/
set_option autoImplicit false

namespace Abacus

open Relational (Table)
open Transition (Machine)

section Passes

/-- The transactions of the pipeline, and the transitions that running passes have fetched. -/
structure WorkerState where
  pipeline : PipelineState
  fetched : List Uuid

inductive WorkerEvent where
  | fetch (limit : ℕ)
  | transaction (event : PipelineEvent)

def PipelineEvent.attempted : PipelineEvent → Option Uuid
  | .apply transitionId _ => some transitionId
  | .applyFails transitionId _ _ => some transitionId
  | _ => none

/-- Any number of passes over one tenant. A pass attempts what it fetched, however stale. -/
def workers (platform : Platform) (settings : Settings) : Machine WorkerState WorkerEvent where
  initial state := (pipeline platform settings).initial state.pipeline ∧ state.fetched = []
  next state
    | .fetch limit =>
        some { state with
          fetched := state.fetched ++ pendingTransitions state.pipeline.database.inventory limit }
    | .transaction event =>
        if event.attempted.all fun transitionId => decide (transitionId ∈ state.fetched) then
          some { state with pipeline := state.pipeline.next platform settings event }
        else none

/-- No attempt is the last one that its transition is allowed. -/
def quarantinesNothing (settings : Settings) (state : WorkerState) : WorkerEvent → Prop
  | .transaction event => state.pipeline.quarantines settings event = none
  | .fetch _ => True

instance decidableQuarantinesNothing (settings : Settings) (state : WorkerState) :
    ∀ event, Decidable (quarantinesNothing settings state event)
  | .transaction event =>
      inferInstanceAs (Decidable (state.pipeline.quarantines settings event = none))
  | .fetch _ => isTrue trivial

end Passes

section Order

def Inventory.Preceded (inventory : Inventory) (transition : InventoryTransitionOutbox) : Prop :=
  ∀ earlier ∈ inventory.transitions.rows, earlier.epc = transition.epc →
    earlier.stateVersion < transition.stateVersion → earlier.isPublished = true

/-- Published rows come first among the rows of their item, and nothing is quarantined. -/
structure Inventory.InOrder (inventory : Inventory) : Prop where
  unquarantined : ∀ row ∈ inventory.transitions.rows, row.isQuarantined = false
  ordered : ∀ row ∈ inventory.transitions.rows, row.isPublished = true → inventory.Preceded row

variable {registry : Registry} {inventory after : Inventory}

/-- The rows of an item stand in version order. -/
theorem Inventory.Journaled.sorted (journaled : inventory.Journaled registry) :
    inventory.transitions.rows.Pairwise fun earlier later =>
      earlier.epc = later.epc → earlier.stateVersion < later.stateVersion := by
  have increasing : ∀ epc, ((inventory.transitions.rows.filter fun row =>
      decide (row.epc = epc)).map InventoryTransitionOutbox.stateVersion).Pairwise (· < ·) := by
    intro epc
    have numbered := journaled.numbered epc
    rw [Inventory.rowsOf,Table.select] at numbered
    rw [numbered]
    exact List.pairwise_lt_range'
  generalize inventory.transitions.rows = rows at increasing
  induction rows with
  | nil => exact .nil
  | cons row rows ih =>
      refine List.pairwise_cons.mpr ⟨?_,ih ?_⟩
      · intro later member same
        have first := increasing row.epc
        rw [List.filter_cons_of_pos (by simp),List.map_cons,List.pairwise_cons] at first
        exact first.1 _ (List.mem_map_of_mem (List.mem_filter.mpr ⟨member,by simp [same]⟩))
      · intro epc
        have all := increasing epc
        by_cases here : row.epc = epc
        · rw [List.filter_cons_of_pos (by simpa using here),List.map_cons] at all
          exact (List.pairwise_cons.mp all).2
        · rwa [List.filter_cons_of_neg (by simpa using here)] at all

theorem Inventory.Journaled.version_le (journaled : inventory.Journaled registry)
    {row : InventoryTransitionOutbox} (member : row ∈ inventory.transitions.rows) :
    row.stateVersion ≤ inventory.version row.epc := by
  have listed : row.stateVersion ∈
      (inventory.rowsOf row.epc).map InventoryTransitionOutbox.stateVersion :=
    List.mem_map_of_mem (Table.mem_select.mpr ⟨member,by simp⟩)
  rw [journaled.numbered,List.mem_range'_1] at listed
  omega

/-- What is published leaves no bucket negative. -/
theorem Inventory.Journaled.published_nonneg (journaled : inventory.Journaled registry)
    (ordered : ∀ row ∈ inventory.transitions.rows, row.isPublished = true → inventory.Preceded row)
    (bucket : Bucket) :
    0 ≤ inventory.transitions.total fun row =>
      if row.isPublished then row.change bucket else 0 := by
  have closed : inventory.transitions.rows.Pairwise fun earlier later =>
      (InventoryTransitionOutbox.move earlier).item = later.move.item →
        later.isPublished = true → earlier.isPublished = true := by
    apply journaled.sorted.imp_of_mem
    intro earlier later first second increasing same published
    exact ordered later second published earlier first same (increasing same)
  have chained := Journal.chained_filter InventoryTransitionOutbox.move
    InventoryTransitionOutbox.isPublished closed journaled.chained
  have sum : (inventory.transitions.total fun row =>
      if row.isPublished then row.change bucket else 0) =
      (((inventory.transitions.rows.filter InventoryTransitionOutbox.isPublished).map
        InventoryTransitionOutbox.move).map fun move => move.net bucket).sum := by
    rw [Table.total,List.map_map]
    have wellFormed := journaled.wellFormed
    generalize inventory.transitions.rows = rows at wellFormed
    induction rows with
    | nil => rfl
    | cons row rows ih =>
        have tail := ih fun other member => wellFormed other (List.mem_cons_of_mem _ member)
        cases published : row.isPublished with
        | false => simpa [published] using tail
        | true =>
            have change := (wellFormed row (List.mem_cons_self ..)).change_eq bucket
            simpa [published,change] using tail
  rw [sum]
  exact Journal.net_nonneg chained bucket

theorem not_quarantined {row : InventoryTransitionOutbox} (unquarantined : row.isQuarantined = false)
    (notPending : row.pending = false) : row.isPublished = true := by
  cases status : row.status <;>
    simp_all [InventoryTransitionOutbox.isQuarantined,InventoryTransitionOutbox.pending,
      InventoryTransitionOutbox.isPublished]

theorem settled_eq_published {row : InventoryTransitionOutbox}
    (unquarantined : row.isQuarantined = false) : row.settled = row.isPublished := by
  cases status : row.status <;>
    simp_all [InventoryTransitionOutbox.isQuarantined,InventoryTransitionOutbox.settled,
      InventoryTransitionOutbox.isPublished]

theorem not_pending_of_published {row : InventoryTransitionOutbox}
    (published : row.isPublished = true) : row.pending = false := by
  cases pending : row.pending with
  | false => rfl
  | true =>
      rw [(pending_not_settled pending).1] at published
      cases published

/-- Without a delta applied and without a quarantine, what precedes a transition still does. -/
theorem Inventory.Preceded.drifts (journaled : inventory.Journaled registry)
    (drifts : inventory.Drifts after none) {row later : InventoryTransitionOutbox}
    (member : row ∈ inventory.transitions.rows) (same : later.entry = row.entry)
    (preceded : inventory.Preceded row) : after.Preceded later := by
  have epc : later.epc = row.epc := congrArg TransitionEntry.epc same
  have version : later.stateVersion = row.stateVersion := congrArg TransitionEntry.stateVersion same
  intro earlier stored item lower
  rw [epc] at item
  rw [version] at lower
  cases pending : earlier.pending with
  | false =>
      rcases drifts.finished earlier stored pending with kept | ⟨old,nothing,-⟩
      · exact preceded earlier kept item lower
      · cases nothing
  | true =>
      rcases drifts.waiting earlier stored pending with ⟨old,kept,entry,waiting⟩ | ⟨-,fresh⟩
      · have oldEpc : old.epc = earlier.epc := congrArg TransitionEntry.epc entry
        have oldVersion : old.stateVersion = earlier.stateVersion :=
          congrArg TransitionEntry.stateVersion entry
        have published := preceded old kept (oldEpc.trans item) (by omega)
        rw [not_pending_of_published published] at waiting
        cases waiting
      · have bound := journaled.version_le member
        rw [item] at fresh
        omega

theorem Inventory.InOrder.drifts (inOrder : inventory.InOrder)
    (journaled : inventory.Journaled registry) (drifts : inventory.Drifts after none) :
    after.InOrder where
  unquarantined row member := by
    cases quarantined : row.isQuarantined with
    | false => rfl
    | true =>
        rcases drifts.finished row member (not_pending_of_quarantined quarantined) with
          kept | ⟨old,nothing,-⟩
        · rw [inOrder.unquarantined row kept] at quarantined
          cases quarantined
        · cases nothing
  ordered row member published := by
    rcases drifts.finished row member (not_pending_of_published published) with
      kept | ⟨old,nothing,-⟩
    · exact (inOrder.ordered row kept published).drifts journaled drifts kept rfl
    · cases nothing

section Publishing

variable {transitionId : Uuid} {now : Time}
  (transitions : after.transitions = inventory.transitions.modify transitionId
    (fun row => row.publish now) (fun row => row.publish_transitionId now))

include transitions

theorem Inventory.Preceded.publish {row later : InventoryTransitionOutbox}
    (same : later.entry = row.entry) (preceded : inventory.Preceded row) : after.Preceded later := by
  have epc : later.epc = row.epc := congrArg TransitionEntry.epc same
  have version : later.stateVersion = row.stateVersion := congrArg TransitionEntry.stateVersion same
  intro earlier stored item lower
  rw [epc] at item
  rw [version] at lower
  rw [transitions] at stored
  obtain ⟨old,kept,rfl⟩ := List.mem_map.mp stored
  by_cases chosen : old.transitionId = transitionId
  · simp only [chosen,decide_true,if_true]
    rfl
  · simp only [chosen,decide_false,Bool.false_eq_true,if_false] at item lower ⊢
    exact preceded old kept item lower

theorem Inventory.InOrder.publish (inOrder : inventory.InOrder)
    (preceded : ∀ row ∈ inventory.transitions.rows, row.transitionId = transitionId →
      inventory.Preceded row) : after.InOrder where
  unquarantined row member := by
    rw [transitions] at member
    obtain ⟨old,kept,rfl⟩ := List.mem_map.mp member
    split
    · rfl
    · exact inOrder.unquarantined old kept
  ordered row member published := by
    rw [transitions] at member
    obtain ⟨old,kept,rfl⟩ := List.mem_map.mp member
    by_cases chosen : old.transitionId = transitionId
    · refine Inventory.Preceded.publish transitions ?_ (preceded old kept chosen)
      split <;> rfl
    · simp only [chosen,decide_false,Bool.false_eq_true,if_false] at published ⊢
      exact Inventory.Preceded.publish transitions rfl (inOrder.ordered old kept published)

end Publishing

end Order

section Attempts

variable {registry : Registry} {connectivity : Connectivity} {inventory after : Inventory}

/-- What an apply that succeeds does to the outbox. -/
theorem applyTransition_transitions {transitionId : Uuid} {now : Time}
    (applied : applyTransition registry connectivity inventory transitionId now = .ok after) :
    after = inventory ∨ after.transitions = inventory.transitions.modify transitionId
      (fun row => row.publish now) (fun row => row.publish_transitionId now) := by
  unfold applyTransition at applied
  split at applied
  · cases applied
    exact .inl rfl
  · obtain ⟨deltas,-,applied⟩ := bind_eq_ok.mp applied
    obtain ⟨⟨count,middle⟩,accepted,result⟩ := bind_eq_ok.mp applied
    cases result
    right
    simp only [(applyInventoryDeltas_spec accepted).transitions]

theorem Inventory.Coherent.quantity_published (coherent : inventory.Coherent registry)
    (inOrder : inventory.InOrder) (bucket : Bucket) :
    inventory.quantity bucket = inventory.transitions.total fun row =>
      if row.isPublished then row.change bucket else 0 := by
  rw [coherent.projected]
  apply Table.total_congr
  intro row member
  rw [settled_eq_published (inOrder.unquarantined row member)]

theorem Inventory.Coherent.quantity_nonneg (coherent : inventory.Coherent registry)
    (inOrder : inventory.InOrder) (bucket : Bucket) : 0 ≤ inventory.quantity bucket := by
  rw [coherent.quantity_published inOrder]
  exact coherent.toJournaled.published_nonneg inOrder.ordered bucket

/-- The projection after a preceded transition is not negative either. -/
theorem Inventory.Coherent.apply_nonneg (coherent : inventory.Coherent registry)
    (inOrder : inventory.InOrder) {transition : InventoryTransitionOutbox}
    (found : inventory.transitions.find? transition.transitionId = some transition)
    (pending : transition.pending = true) (preceded : inventory.Preceded transition)
    (bucket : Bucket) : 0 ≤ inventory.quantity bucket + transition.change bucket := by
  set published : Inventory :=
    { inventory with
      transitions := inventory.transitions.modify transition.transitionId
        (fun row => row.publish 0) (fun row => row.publish_transitionId 0) } with publishedDef
  have member := Table.mem_of_find? found
  have journaled : published.Journaled registry := coherent.toJournaled.restamp
    (fun row => row.transitionId = transition.transitionId) (publish_restamps 0) rfl rfl
  have ordered : published.InOrder := by
    refine Inventory.InOrder.publish rfl inOrder ?_
    intro row stored same
    rw [inventory.transitions.eq_of_key stored member same]
    exact preceded
  have total := Table.total_modify (f := fun row => row.publish 0)
    (fun row => row.publish_transitionId 0) found
    (fun row => if row.isPublished then row.change bucket else 0)
  have change : (transition.publish 0).change bucket = transition.change bucket := rfl
  have stamped : (transition.publish 0).isPublished = true := rfl
  rw [(pending_not_settled pending).1,stamped,change] at total
  simp only [if_true,Bool.false_eq_true,if_false,add_zero] at total
  rw [coherent.quantity_published inOrder,← total]
  exact journaled.published_nonneg ordered.ordered bucket

theorem applyTransition_no_valueError (coherent : inventory.Coherent registry)
    (inOrder : inventory.InOrder) {transitionId : Uuid}
    (preceded : ∀ row ∈ inventory.transitions.rows, row.transitionId = transitionId →
      inventory.Preceded row) (now : Time) (message : String) :
    applyTransition registry connectivity inventory transitionId now ≠
      .error (.valueError message) := by
  intro failed
  unfold applyTransition at failed
  split at failed
  · cases failed
  · rename_i transition found
    obtain ⟨stored,pending⟩ := pendingTransition_spec found
    have member := Table.mem_of_find? stored
    have keyed : transition.transitionId = transitionId := Table.key_of_find? stored
    have wellFormed := coherent.wellFormed transition member
    have fresh : freshDeltas inventory.applied transition.events = transition.events :=
      freshDeltas_of_new wellFormed.distinct
        fun delta event => coherent.unapplied member (pending_not_settled pending).1 event
    have accepted : applyInventoryDeltas registry connectivity inventory transition.events ≠
        .error (.valueError message) := by
      apply applyInventoryDeltas_no_valueError
      intro bucket
      rw [fresh]
      exact coherent.apply_nonneg inOrder (keyed ▸ stored) pending (preceded transition member keyed)
        bucket
    rw [wellFormed.validated] at failed
    rcases bind_eq_error.mp failed with invalid | ⟨deltas,same,failed⟩
    · cases invalid
    · cases same
      rcases bind_eq_error.mp failed with refused | ⟨value,-,nothing⟩
      · exact accepted refused
      · cases nothing

theorem redeliverTransition_no_valueError (coherent : inventory.Coherent registry)
    (inOrder : inventory.InOrder) (transitionId : Uuid) (message : String) :
    redeliverTransition registry connectivity inventory transitionId ≠
      .error (.valueError message) := by
  intro failed
  unfold redeliverTransition at failed
  split at failed
  · cases failed
  · rename_i transition found
    obtain ⟨stored,published⟩ := Option.filter_eq_some_iff.mp found
    have member := Table.mem_of_find? stored
    have wellFormed := coherent.wellFormed transition member
    have nothing := freshDeltas_of_applied (coherent.publishedApplied transition member published)
    have accepted : applyInventoryDeltas registry connectivity inventory transition.events ≠
        .error (.valueError message) := by
      apply applyInventoryDeltas_no_valueError
      intro bucket
      rw [nothing,deltaSum_nil,add_zero]
      exact coherent.quantity_nonneg inOrder bucket
    rw [wellFormed.validated] at failed
    rcases bind_eq_error.mp failed with invalid | ⟨deltas,same,failed⟩
    · cases invalid
    · cases same
      rcases bind_eq_error.mp failed with refused | ⟨value,-,nothing⟩
      · exact accepted refused
      · cases nothing

end Attempts

section Runs

variable {platform : Platform} {settings : Settings}

def Inventory.Ready (inventory : Inventory) (transitionId : Uuid) : Prop :=
  ∃ row ∈ inventory.transitions.rows, row.transitionId = transitionId ∧ inventory.Preceded row

structure WorkerState.Holds (state : WorkerState) : Prop where
  coherent : state.pipeline.Coherent
  inOrder : state.pipeline.database.inventory.InOrder
  ready : ∀ transitionId ∈ state.fetched, state.pipeline.database.inventory.Ready transitionId

theorem Inventory.Ready.preceded {inventory : Inventory} {transitionId : Uuid}
    (ready : inventory.Ready transitionId) :
    ∀ row ∈ inventory.transitions.rows, row.transitionId = transitionId →
      inventory.Preceded row := by
  obtain ⟨owner,owned,keyed,preceded⟩ := ready
  intro row member same
  rw [inventory.transitions.eq_of_key member owned (same.trans keyed.symm)]
  exact preceded

/-- What a pass fetches is preceded: nothing of the item is pending before it. -/
theorem pendingTransitions_ready {inventory : Inventory} (inOrder : inventory.InOrder) {limit : ℕ}
    {transitionId : Uuid} (fetched : transitionId ∈ pendingTransitions inventory limit) :
    inventory.Ready transitionId := by
  obtain ⟨row,listed,rfl⟩ := List.mem_map.mp (List.mem_of_mem_take fetched)
  obtain ⟨member,earliest⟩ := Table.mem_select.mp ((List.mem_insertionSort _).mp listed)
  refine ⟨row,member,rfl,?_⟩
  intro earlier stored item lower
  have first := (Bool.and_eq_true_iff.mp earliest).2
  rw [List.all_eq_true] at first
  have bound := first earlier stored
  apply not_quarantined (inOrder.unquarantined earlier stored)
  cases pending : earlier.pending with
  | false => rfl
  | true =>
      simp only [decide_eq_true_eq] at bound
      have least := bound item pending
      omega

theorem redeliverTransition_transitions {registry : Registry} {connectivity : Connectivity}
    {inventory after : Inventory} {transitionId : Uuid}
    (redelivered : redeliverTransition registry connectivity inventory transitionId = .ok after) :
    after.transitions = inventory.transitions := by
  unfold redeliverTransition at redelivered
  split at redelivered
  · cases redelivered
    rfl
  · obtain ⟨deltas,-,applied⟩ := bind_eq_ok.mp redelivered
    obtain ⟨⟨count,middle⟩,accepted,result⟩ := bind_eq_ok.mp applied
    cases result
    exact (applyInventoryDeltas_spec accepted).transitions

/-- A rebuild reconciles nothing if nothing is quarantined. -/
theorem rebuildInventoryProjection_transitions {inventory after : Inventory}
    {connectivity cleared : Connectivity} {reconciledAt : Time} {count : ℕ}
    (inOrder : inventory.InOrder)
    (rebuilt : rebuildInventoryProjection inventory connectivity reconciledAt =
      .ok (count,after,cleared)) : after.transitions = inventory.transitions := by
  unfold rebuildInventoryProjection at rebuilt
  split at rebuilt
  · cases rebuilt
  · obtain ⟨projections,-,result⟩ := bind_eq_ok.mp rebuilt
    cases result
    apply Table.ext
    change inventory.transitions.rows.map _ = inventory.transitions.rows
    rw [List.map_congr_left (g := id),List.map_id]
    intro row member
    have unquarantined := inOrder.unquarantined row member
    have untouched : row.unreconciled = false := by
      cases status : row.status <;>
        simp_all [InventoryTransitionOutbox.isQuarantined,InventoryTransitionOutbox.unreconciled]
    rw [untouched,if_neg Bool.false_ne_true]
    rfl

theorem Inventory.Ready.congr {inventory after : Inventory} {transitionId : Uuid}
    (same : after.transitions = inventory.transitions) (ready : inventory.Ready transitionId) :
    after.Ready transitionId := by
  unfold Inventory.Ready Inventory.Preceded at ready ⊢
  rw [same]
  exact ready

theorem Inventory.InOrder.congr {inventory after : Inventory}
    (same : after.transitions = inventory.transitions) (inOrder : inventory.InOrder) :
    after.InOrder := by
  obtain ⟨unquarantined,ordered⟩ := inOrder
  constructor
  · rw [same]
    exact unquarantined
  · unfold Inventory.Preceded at ordered ⊢
    rw [same]
    exact ordered

/-- What one transaction does to the order of the outbox. -/
theorem PipelineState.next_inOrder (platform : Platform) {state : PipelineState}
    {event : PipelineEvent}
    (coherent : state.Coherent) (inOrder : state.database.inventory.InOrder)
    (attempted : ∀ transitionId ∈ event.attempted, state.database.inventory.Ready transitionId)
    (quiet : state.quarantines settings event = none) :
    (state.next platform settings event).database.inventory.InOrder ∧
      ∀ transitionId, state.database.inventory.Ready transitionId →
        (state.next platform settings event).database.inventory.Ready transitionId := by
  have unlocked : event.takesProjectionLock = false →
      (state.next platform settings event).database.inventory.InOrder ∧
        ∀ transitionId, state.database.inventory.Ready transitionId →
          (state.next platform settings event).database.inventory.Ready transitionId := by
    intro free
    have drifts := state.next_drifts platform settings event free
    rw [quiet] at drifts
    refine ⟨inOrder.drifts coherent.toJournaled drifts,?_⟩
    rintro transitionId ⟨row,member,keyed,preceded⟩
    have listed := drifts.entries.subset
      (List.mem_map_of_mem (f := InventoryTransitionOutbox.entry) member)
    obtain ⟨later,stored,same⟩ := List.mem_map.mp listed
    exact ⟨later,stored,(congrArg TransitionEntry.transitionId same).trans keyed,
      preceded.drifts coherent.toJournaled drifts member same⟩
  have unchanged : ∀ {α : Type} {attempt : Attempt α} {write : α → PipelineState},
      (∀ value, attempt = .ok value →
        (write value).database.inventory.transitions = state.database.inventory.transitions) →
      (state.commit attempt write).database.inventory.InOrder ∧
        ∀ transitionId, state.database.inventory.Ready transitionId →
          (state.commit attempt write).database.inventory.Ready transitionId := by
    intro α attempt write same
    cases attempt with
    | error failure => exact ⟨inOrder,fun _ ready => ready⟩
    | ok value => exact ⟨inOrder.congr (same value rfl),fun _ ready => ready.congr (same value rfl)⟩
  cases event with
  | observe event clock quarantineId evidenceId => exact unlocked rfl
  | remove storeId request clock eventId => exact unlocked rfl
  | applyFails transitionId error now => exact unlocked rfl
  | elsewhere surroundings => exact unlocked rfl
  | redeliver transitionId =>
      exact unchanged fun inventory redelivered => redeliverTransition_transitions redelivered
  | rebuild now =>
      apply unchanged
      rintro ⟨count,inventory,connectivity⟩ rebuilt
      exact rebuildInventoryProjection_transitions inOrder rebuilt
  | apply transitionId now =>
      have ready := attempted transitionId rfl
      simp only [PipelineState.next,PipelineState.commit]
      split
      · rename_i after applied
        rcases applyTransition_transitions applied with same | published
        · subst same
          exact ⟨inOrder,fun _ ready => ready⟩
        · refine ⟨inOrder.publish published ready.preceded,?_⟩
          rintro other ⟨row,member,keyed,preceded⟩
          refine ⟨if decide (row.transitionId = transitionId) then row.publish now else row,?_,?_,?_⟩
          · change _ ∈ after.transitions.rows
            rw [published]
            exact List.mem_map.mpr ⟨row,member,rfl⟩
          · split <;> exact keyed
          · refine Inventory.Preceded.publish published ?_ preceded
            split <;> rfl
      · exact ⟨inOrder,fun _ ready => ready⟩

theorem workers_hold {state : WorkerState}
    (reachable : (workers platform settings).ReachableWithin (quarantinesNothing settings) state) :
    state.Holds := by
  refine Machine.ReachableWithin.invariant ?_ ?_ reachable
  · rintro ⟨pipeline,fetched⟩ ⟨empty,nothing⟩
    have inventory : pipeline.database.inventory = Inventory.empty := empty
    have none_fetched : fetched = [] := nothing
    subst none_fetched
    refine ⟨?_,?_,fun _ member => by cases member⟩
    · rw [PipelineState.Coherent,inventory]
      exact Inventory.empty_coherent _
    · simp only [inventory]
      exact ⟨fun _ member => (by cases member),fun _ member => (by cases member)⟩
  · intro state event after holds quiet taken
    obtain ⟨coherent,inOrder,ready⟩ := holds
    cases event with
    | fetch limit =>
        cases taken
        refine ⟨coherent,inOrder,?_⟩
        intro transitionId member
        rcases List.mem_append.mp member with earlier | fresh
        · exact ready transitionId earlier
        · exact pendingTransitions_ready inOrder fresh
    | transaction event =>
        simp only [workers] at taken
        split at taken
        · rename_i attempted
          cases taken
          have fetched : ∀ transitionId ∈ event.attempted, transitionId ∈ state.fetched := by
            intro transitionId member
            rw [Option.mem_def.mp member,Option.all_some,decide_eq_true_eq] at attempted
            exact attempted
          have next := PipelineState.next_inOrder platform coherent inOrder
            (fun transitionId member => ready transitionId (fetched transitionId member)) quiet
          exact ⟨state.pipeline.next_coherent event coherent,next.1,
            fun transitionId member => next.2 transitionId (ready transitionId member)⟩
        · cases taken

end Runs

section Outcome

/-- A rebuild of an inventory with nothing pending succeeds and finds the located items. -/
theorem rebuild_of_drained {inventory : Inventory}
    (connectivity : Connectivity) (reconciledAt : Time)
    (drained : ∀ row ∈ inventory.transitions.rows, row.pending = false) :
    ∃ count rebuilt cleared, rebuildInventoryProjection inventory connectivity reconciledAt =
        .ok (count,rebuilt,cleared) ∧
      ∀ bucket, rebuilt.quantity bucket = (inventory.locatedCount bucket : ℤ) := by
  obtain ⟨projections,inserted⟩ := rebuiltRows_insert connectivity inventory.items
  have emptied : (inventory.projections.deleteWhere fun _ => true) = Table.empty := by
    apply Table.ext
    simp [Table.deleteWhere]
  refine ⟨(rebuiltRows connectivity inventory.items).length,
    { inventory with
      projections
      transitions := reconcileQuarantined inventory.transitions reconciledAt },
    clearReconciliation connectivity,?_,?_⟩
  · unfold rebuildInventoryProjection
    rw [if_neg (not_not.mpr (pendingCount_eq_zero.mpr drained)),emptied]
    simp only [inserted]
    rfl
  · intro bucket
    have rows := (Table.insertMany_eq_some inserted).1
    exact rebuilt_quantity (by simpa using rows) bucket

/-- Non-negative projection: applied in version order per item, deltas never meet a negative
quantity, no row of the projection is negative, and a drained outbox leaves what a rebuild would
produce. -/
theorem projection_nonnegative (platform : Platform) (settings : Settings) {state : WorkerState}
    (reachable : (workers platform settings).ReachableWithin (quarantinesNothing settings) state) :
    (∀ transitionId ∈ state.fetched, ∀ now message,
      applyTransition state.pipeline.database.registry state.pipeline.database.connectivity
        state.pipeline.database.inventory transitionId now ≠ .error (.valueError message)) ∧
    (∀ transitionId message,
      redeliverTransition state.pipeline.database.registry state.pipeline.database.connectivity
        state.pipeline.database.inventory transitionId ≠ .error (.valueError message)) ∧
    (∀ row ∈ state.pipeline.database.inventory.projections.rows, 0 ≤ row.quantity) ∧
    ((∀ row ∈ state.pipeline.database.inventory.transitions.rows, row.pending = false) →
      (∀ bucket, state.pipeline.database.inventory.quantity bucket =
        (state.pipeline.database.inventory.locatedCount bucket : ℤ)) ∧
      ∀ reconciledAt, ∃ count rebuilt cleared,
        rebuildInventoryProjection state.pipeline.database.inventory
          state.pipeline.database.connectivity reconciledAt = .ok (count,rebuilt,cleared) ∧
        ∀ bucket, rebuilt.quantity bucket = state.pipeline.database.inventory.quantity bucket) := by
  obtain ⟨coherent,inOrder,ready⟩ := workers_hold reachable
  refine ⟨?_,?_,?_,?_⟩
  · intro transitionId fetched now message
    exact applyTransition_no_valueError coherent inOrder (ready transitionId fetched).preceded now
      message
  · intro transitionId message
    exact redeliverTransition_no_valueError coherent inOrder transitionId message
  · intro row member
    have nonnegative := coherent.quantity_nonneg inOrder row.bucket
    rw [Inventory.quantity,projectedQuantity,Table.find?_of_mem member] at nonnegative
    exact nonnegative
  · intro drained
    have counted : ∀ bucket, state.pipeline.database.inventory.quantity bucket =
        (state.pipeline.database.inventory.locatedCount bucket : ℤ) := by
      intro bucket
      rw [coherent.quantity_published inOrder,← coherent.total_change bucket]
      apply Table.total_congr
      intro row member
      rw [if_pos (not_quarantined (inOrder.unquarantined row member) (drained row member))]
    refine ⟨counted,fun reconciledAt => ?_⟩
    obtain ⟨count,rebuilt,cleared,accepted,located⟩ :=
      rebuild_of_drained state.pipeline.database.connectivity reconciledAt drained
    exact ⟨count,rebuilt,cleared,accepted,fun bucket => (located bucket).trans (counted bucket).symm⟩

namespace Sample

def patient : Settings := { settings with workerMaxAttempts := 5, maxAttemptsInRange := by decide }

/-- A tag is found and moves; the move's transition fails once, is applied, and is delivered again. -/
def retriedMove : List WorkerEvent :=
  [.transaction (.observe (read backroomReader backroomId "a" 1000000 100) (clock 1000000) 200 300),
   .fetch 250,.transaction (.apply 1009 2000000),
   .transaction (.observe (read floorReader floorId "b" 20000000 101) (clock 20000000) 201 301),
   .fetch 250,.transaction (.applyFails 2009 "RuntimeError: lost connection" 30000000),
   .transaction (.apply 2009 31000000),.transaction (.redeliver 2009)]

def retried : WorkerState := ((workers platform patient).run ⟨start,[]⟩ retriedMove).getD ⟨start,[]⟩

end Sample

theorem projection_nonnegative_sample :
    Sample.retried.fetched = [1009,2009] ∧
    Sample.retried.pipeline.database.inventory.quantity Sample.floor = 1 ∧
    Sample.retried.pipeline.database.inventory.quantity Sample.backroom = 0 ∧
    ∀ bucket, Sample.retried.pipeline.database.inventory.quantity bucket =
      (Sample.retried.pipeline.database.inventory.locatedCount bucket : ℤ) := by
  refine ⟨by decide +kernel,by decide +kernel,by decide +kernel,?_⟩
  refine ((projection_nonnegative Sample.platform Sample.patient
    ⟨⟨Sample.start,[]⟩,Sample.retriedMove,⟨rfl,rfl⟩,by decide +kernel,
      Machine.run_getD (by decide +kernel)⟩).2.2.2 ?_).1
  decide +kernel

end Outcome

end Abacus

import Abacus.Inventory.Effects
import Abacus.Model.ProjectionRebuild

/-! The projection as the settled part of the journal. Every inventory transaction settles what it
projects and projects what it settles.
-/
set_option autoImplicit false

namespace Abacus

open Relational (Table OrderedDict)

section Coherence

/-- The projection is the settled part of the journal, and the applied-delta table is exactly
the published part of it. -/
structure Inventory.Coherent (registry : Registry) (inventory : Inventory) : Prop
    extends inventory.Journaled registry where
  appliedPublished : ∀ row ∈ inventory.applied.rows, ∃ transition ∈ inventory.transitions.rows,
    transition.transitionId = row.deltaId.transitionId ∧ transition.isPublished = true
  publishedApplied : ∀ transition ∈ inventory.transitions.rows, transition.isPublished = true →
    ∀ delta ∈ transition.events, (inventory.applied.find? delta.deltaId).isSome = true
  projected : ∀ bucket, inventory.quantity bucket =
    inventory.transitions.total fun transition =>
      if transition.settled then transition.change bucket else 0

variable {registry : Registry} {inventory after : Inventory}

/-- The deltas of an unpublished row are not in the applied table. -/
theorem Inventory.Coherent.unapplied (coherent : inventory.Coherent registry)
    {transition : InventoryTransitionOutbox} (stored : transition ∈ inventory.transitions.rows)
    (unpublished : transition.isPublished = false) {delta : InventoryDeltaEvent}
    (member : delta ∈ transition.events) : inventory.applied.find? delta.deltaId = none := by
  cases found : inventory.applied.find? delta.deltaId with
  | none => rfl
  | some row =>
      obtain ⟨owner,owned,same,published⟩ :=
        coherent.appliedPublished row (Table.mem_of_find? found)
      have keyed : row.deltaId = delta.deltaId := Table.key_of_find? found
      have ids := ((coherent.wellFormed transition stored).event_ids member).1
      have equal : owner = transition := inventory.transitions.eq_of_key owned stored
        (same.trans (by rw [keyed,ids]))
      rw [equal,unpublished] at published
      cases published

theorem pending_not_settled {transition : InventoryTransitionOutbox}
    (pending : transition.pending = true) :
    transition.isPublished = false ∧ transition.settled = false := by
  have status : transition.status = .pending := by
    simpa [InventoryTransitionOutbox.pending] using pending
  simp [InventoryTransitionOutbox.isPublished,InventoryTransitionOutbox.settled,status]

theorem not_pending_of_quarantined {row : InventoryTransitionOutbox}
    (quarantined : row.isQuarantined = true) : row.pending = false := by
  cases status : row.status <;>
    simp_all [InventoryTransitionOutbox.isQuarantined,InventoryTransitionOutbox.pending]

theorem Inventory.Advance.coherent (advance : inventory.Advance registry after)
    (coherent : inventory.Coherent registry) : after.Coherent registry := by
  have journaled := advance.journaled coherent.toJournaled
  cases advance with
  | unchanged => exact coherent
  | refreshed old new found epc sku location version =>
      exact ⟨journaled,coherent.appliedPublished,coherent.publishedApplied,coherent.projected⟩
  | recorded next transitionId confidence observedAt createdAt middle businessEvents written version
      moved =>
      have spec := recordTransition_spec written
      refine ⟨journaled,?_,?_,?_⟩
      · intro row member
        change row ∈ middle.applied.rows at member
        rw [spec.applied] at member
        obtain ⟨owner,owned,same,published⟩ := coherent.appliedPublished row member
        exact ⟨owner,(Table.mem_insert spec.inserted).mpr (.inl owned),same,published⟩
      · intro transition member published delta event
        change (middle.applied.find? delta.deltaId).isSome = true
        rw [spec.applied]
        rcases (Table.mem_insert spec.inserted).mp member with stored | rfl
        · exact coherent.publishedApplied transition stored published delta event
        · simp [InventoryTransitionOutbox.isPublished] at published
      · intro bucket
        have quantity : ({ middle with businessEvents } : Inventory).quantity bucket =
            inventory.quantity bucket := by
          change projectedQuantity middle.projections bucket = _
          rw [spec.projections]
          rfl
        rw [quantity,coherent.projected,Table.total_insert spec.inserted]
        simp [InventoryTransitionOutbox.settled]

/-- A change of rows that settles and publishes nothing keeps the inventory coherent. -/
theorem Inventory.Coherent.restamp (coherent : inventory.Coherent registry)
    (transitionId : Uuid) {f : InventoryTransitionOutbox → InventoryTransitionOutbox}
    (restamps : Restamps f)
    (unsettled : ∀ row ∈ inventory.transitions.rows, row.transitionId = transitionId →
      row.pending = true ∧ (f row).isPublished = false ∧ (f row).settled = false) :
    ({ inventory with transitions := inventory.transitions.modify transitionId f restamps.key } :
      Inventory).Coherent registry := by
  refine ⟨coherent.toJournaled.restamp (fun row => row.transitionId = transitionId) restamps rfl rfl,
    ?_,?_,?_⟩
  · intro row member
    obtain ⟨owner,owned,same,published⟩ := coherent.appliedPublished row member
    have untouched : ¬owner.transitionId = transitionId := by
      intro chosen
      have pending := (unsettled owner owned chosen).1
      rw [(pending_not_settled pending).1] at published
      cases published
    exact ⟨owner,List.mem_map.mpr ⟨owner,owned,by simp [untouched]⟩,same,published⟩
  · intro row member published delta event
    obtain ⟨old,stored,rfl⟩ := List.mem_map.mp member
    split at published
    · rename_i chosen
      rw [(unsettled old stored (by simpa using chosen)).2.1] at published
      cases published
    · rename_i other
      rw [if_neg other] at event
      exact coherent.publishedApplied old stored published delta event
  · intro bucket
    change projectedQuantity inventory.projections bucket = _
    rw [Table.modify,Table.total_updateWhere]
    refine (coherent.projected bucket).trans (Table.total_congr ?_)
    intro row stored
    by_cases chosen : row.transitionId = transitionId
    · obtain ⟨pending,-,rest⟩ := unsettled row stored chosen
      simp [chosen,rest,(pending_not_settled pending).2]
    · simp [chosen]

theorem publish_restamps (now : Time) :
    Restamps fun row : InventoryTransitionOutbox => row.publish now :=
  ⟨fun _ => rfl,fun _ => rfl,fun _ => rfl,fun _ => rfl⟩

theorem countFailure_restamps (error : String) :
    Restamps fun row : InventoryTransitionOutbox => row.countFailure error :=
  ⟨fun _ => rfl,fun _ => rfl,fun _ => rfl,fun _ => rfl⟩

theorem quarantine_restamps (error : String) (quarantinedAt : Time) :
    Restamps fun row : InventoryTransitionOutbox => row.quarantine error quarantinedAt :=
  ⟨fun _ => rfl,fun _ => rfl,fun _ => rfl,fun _ => rfl⟩

theorem reconcile_restamps (reconciledAt : Time) :
    Restamps fun row : InventoryTransitionOutbox => row.reconcile reconciledAt :=
  ⟨fun _ => rfl,fun _ => rfl,fun _ => rfl,fun _ => rfl⟩

theorem pendingTransition_spec {transitionId : Uuid} {transition : InventoryTransitionOutbox}
    (found : pendingTransition inventory transitionId = some transition) :
    inventory.transitions.find? transitionId = some transition ∧ transition.pending = true :=
  Option.filter_eq_some_iff.mp found

theorem applyTransition_coherent {connectivity : Connectivity} {transitionId : Uuid} {now : Time}
    (coherent : inventory.Coherent registry)
    (applied : applyTransition registry connectivity inventory transitionId now = .ok after) :
    after.Coherent registry := by
  unfold applyTransition at applied
  split at applied
  · cases applied; exact coherent
  · rename_i transition found
    obtain ⟨stored,pending⟩ := pendingTransition_spec found
    have member := Table.mem_of_find? stored
    have keyed : transition.transitionId = transitionId := Table.key_of_find? stored
    have wellFormed := coherent.wellFormed transition member
    obtain ⟨deltas,validated,applied⟩ := bind_eq_ok.mp applied
    obtain ⟨⟨count,middle⟩,accepted,result⟩ := bind_eq_ok.mp applied
    cases result
    rw [wellFormed.validated] at validated
    cases validated
    have spec := applyInventoryDeltas_spec accepted
    rw [freshDeltas_of_new wellFormed.distinct fun delta event =>
      coherent.unapplied member (pending_not_settled pending).1 event] at spec
    have owner : ∀ row ∈ inventory.transitions.rows, row.transitionId = transitionId →
        row = transition := fun row stored' same =>
      inventory.transitions.eq_of_key stored' member (same.trans keyed.symm)
    refine ⟨coherent.toJournaled.restamp (fun row => row.transitionId = transitionId)
      (publish_restamps now) (by simp only [spec.transitions]; rfl) spec.items,?_,?_,?_⟩
    · intro row place
      change row ∈ middle.applied.rows at place
      rw [spec.applied,List.mem_append] at place
      simp only [spec.transitions]
      rcases place with earlier | fresh
      · obtain ⟨owner',owned,same,published⟩ := coherent.appliedPublished row earlier
        refine ⟨if decide (owner'.transitionId = transitionId) then owner'.publish now else owner',
          List.mem_map.mpr ⟨owner',owned,rfl⟩,?_,?_⟩
        · split <;> exact same
        · split
          · rfl
          · exact published
      · obtain ⟨delta,event,rfl⟩ := List.mem_map.mp fresh
        refine ⟨transition.publish now,List.mem_map.mpr ⟨transition,member,by simp [keyed]⟩,
          ?_,rfl⟩
        exact (wellFormed.event_ids event).1.symm
    · intro row place published delta event
      change (middle.applied.find? delta.deltaId).isSome = true
      simp only [spec.transitions] at place
      obtain ⟨old,stored',rfl⟩ := List.mem_map.mp place
      rw [Table.find?_append spec.applied]
      split at event
      · rename_i chosen
        have same := owner old stored' (by simpa using chosen)
        subst same
        rw [Option.isSome_or]
        have listed : ((old.events.map AppliedInventoryDelta.ofEvent).find?
            fun row => row.deltaId = delta.deltaId).isSome = true := by
          rw [List.find?_isSome]
          exact ⟨AppliedInventoryDelta.ofEvent delta,List.mem_map_of_mem event,by
            simp [AppliedInventoryDelta.ofEvent]⟩
        rw [listed,Bool.or_true]
      · rename_i other
        rw [if_neg other] at published
        rw [Option.isSome_or,coherent.publishedApplied old stored' published delta event,Bool.true_or]
    · intro bucket
      change middle.quantity bucket = _
      simp only [spec.transitions]
      have total := Table.total_modify (f := fun row => row.publish now) (fun _ => rfl) stored
        (fun row => if row.settled then row.change bucket else 0)
      have unsettled := (pending_not_settled pending).2
      have published : (transition.publish now).settled = true := rfl
      have change : (transition.publish now).change bucket = deltaSum transition.events bucket := rfl
      rw [unsettled,published,change] at total
      simp only [if_true,Bool.false_eq_true,if_false,add_zero] at total
      rw [spec.quantity,coherent.projected,← total]

theorem failTransition_coherent {settings : Settings} {connectivity : Connectivity}
    {transitionId : Uuid} {error : String} {now : Time} (coherent : inventory.Coherent registry) :
    (failTransition settings connectivity inventory transitionId error now).1.Coherent registry := by
  unfold failTransition
  split
  · exact coherent
  · rename_i transition found
    obtain ⟨stored,pending⟩ := pendingTransition_spec found
    have member := Table.mem_of_find? stored
    have keyed : transition.transitionId = transitionId := Table.key_of_find? stored
    have owner : ∀ row ∈ inventory.transitions.rows, row.transitionId = transitionId →
        row.pending = true := by
      intro row stored' same
      rw [inventory.transitions.eq_of_key stored' member (same.trans keyed.symm)]
      exact pending
    have counted := coherent.restamp transitionId (countFailure_restamps error)
      fun row stored' same => ⟨owner row stored' same,pending_not_settled (owner row stored' same)⟩
    dsimp only
    split
    · apply counted.restamp transition.transitionId (quarantine_restamps error now)
      intro row stored' same
      refine ⟨?_,rfl,rfl⟩
      obtain ⟨old,place,rfl⟩ := List.mem_map.mp stored'
      have oldPending : old.transitionId = transitionId → old.pending = true := owner old place
      by_cases chosen : old.transitionId = transitionId
      · simpa [chosen,InventoryTransitionOutbox.pending,
          InventoryTransitionOutbox.countFailure] using oldPending chosen
      · simp [chosen,keyed] at same
    · exact counted

/-- The settled part of a journal in which no row is outstanding is the whole journal. -/
theorem Inventory.Journaled.total_change (journaled : inventory.Journaled registry)
    (bucket : Bucket) :
    (inventory.transitions.total fun transition => transition.change bucket) =
      (inventory.locatedCount bucket : ℤ) := by
  have epcs : (inventory.items.rows.map CurrentItemState.epc).Nodup := inventory.items.unique
  set known := inventory.items.rows.map CurrentItemState.epc ++
    ((inventory.moves.map Journal.Move.item).dedup.filter fun epc =>
      decide (epc ∉ inventory.items.rows.map CurrentItemState.epc)) with knownDef
  have distinct : known.Nodup := by
    rw [knownDef,List.nodup_append]
    refine ⟨epcs,(List.nodup_dedup _).filter _,?_⟩
    rintro epc first _ second rfl
    have absent := (List.mem_filter.mp second).2
    simp only [decide_eq_true_eq] at absent
    exact absent first
  have listed : ∀ move ∈ inventory.moves, move.item ∈ known := by
    intro move member
    by_cases item : move.item ∈ inventory.items.rows.map CurrentItemState.epc
    · exact List.mem_append_left _ item
    · apply List.mem_append_right
      rw [List.mem_filter]
      exact ⟨List.mem_dedup.mpr (List.mem_map_of_mem member),by simpa using item⟩
  have net : (inventory.transitions.total fun transition => transition.change bucket) =
      (inventory.moves.map fun move => move.net bucket).sum := by
    rw [Table.total,Inventory.moves,List.map_map]
    congr 1
    apply List.map_congr_left
    intro transition member
    exact (journaled.wellFormed transition member).change_eq bucket
  rw [net,Journal.net_eq_census distinct bucket listed journaled.chained,Journal.census_nowhere,
    sub_zero,journaled.placed,knownDef,Journal.census,List.map_append,List.sum_append]
  have nowhere : ((((inventory.moves.map Journal.Move.item).dedup.filter fun epc =>
      decide (epc ∉ inventory.items.rows.map CurrentItemState.epc)).map fun epc =>
        Journal.occupies (inventory.place epc) bucket)).sum = 0 := by
    apply List.sum_eq_zero
    intro count member
    obtain ⟨epc,place,rfl⟩ := List.mem_map.mp member
    have absent := (List.mem_filter.mp place).2
    simp only [decide_eq_true_eq,List.mem_map,not_exists,not_and] at absent
    have missing : inventory.items.find? epc = none :=
      (inventory.items.find?_eq_none_iff epc).mpr absent
    simp [Inventory.place,missing,Journal.occupies]
  rw [nowhere,add_zero,Inventory.locatedCount,List.map_map]
  have here : inventory.items.rows.map
      ((fun epc => Journal.occupies (inventory.place epc) bucket) ∘ CurrentItemState.epc) =
      inventory.items.rows.map fun state =>
        if decide (state.bucket? = some bucket) then (1 : ℤ) else 0 := by
    apply List.map_congr_left
    intro state member
    simp [Inventory.place,Table.find?_of_mem member,Journal.occupies]
  rw [here]
  induction inventory.items.rows with
  | nil => rfl
  | cons state rows ih =>
      rw [List.map_cons,List.sum_cons,ih,List.countP_cons]
      by_cases located : state.bucket? = some bucket <;> simp [located,add_comm]

theorem reconcile_settled (transition : InventoryTransitionOutbox) (reconciledAt : Time)
    (notPending : transition.pending = false) :
    (if transition.unreconciled then transition.reconcile reconciledAt else transition).settled =
      true := by
  cases status : transition.status with
  | pending => simp [InventoryTransitionOutbox.pending,status] at notPending
  | published publishedAt =>
      simp [InventoryTransitionOutbox.unreconciled,InventoryTransitionOutbox.settled,status]
  | quarantined quarantinedAt reconciled =>
      cases reconciled <;>
        simp [InventoryTransitionOutbox.unreconciled,InventoryTransitionOutbox.settled,
          InventoryTransitionOutbox.reconcile,status]

theorem pendingCount_eq_zero :
    pendingCount inventory = 0 ↔ ∀ row ∈ inventory.transitions.rows, row.pending = false := by
  simp [pendingCount,Table.select]

@[simp] theorem isPublished_reconcile (transition : InventoryTransitionOutbox)
    (reconciledAt : Time) :
    (transition.reconcile reconciledAt).isPublished = transition.isPublished := by
  cases status : transition.status with
  | pending => simp [InventoryTransitionOutbox.isPublished,InventoryTransitionOutbox.reconcile,status]
  | published publishedAt =>
      simp [InventoryTransitionOutbox.isPublished,InventoryTransitionOutbox.reconcile,status]
  | quarantined quarantinedAt reconciled =>
      cases reconciled <;>
        simp [InventoryTransitionOutbox.isPublished,InventoryTransitionOutbox.reconcile,status]

/-- New projections that hold exactly what is settled once the chosen rows are reconciled. -/
theorem Inventory.Coherent.reconcile (coherent : inventory.Coherent registry)
    (chosen : InventoryTransitionOutbox → Bool) (reconciledAt : Time)
    (projections : Table InventoryProjection.bucket)
    (projected : ∀ bucket, projectedQuantity projections bucket =
      inventory.transitions.total fun transition =>
        if (if chosen transition then transition.reconcile reconciledAt else transition).settled then
          transition.change bucket
        else 0) :
    ({ inventory with
        projections
        transitions := reconcileTransitions inventory.transitions chosen reconciledAt } :
      Inventory).Coherent registry := by
  refine ⟨coherent.toJournaled.restamp chosen (reconcile_restamps reconciledAt) rfl rfl,?_,?_,?_⟩
  · intro row member
    obtain ⟨owner,owned,same,published⟩ := coherent.appliedPublished row member
    refine ⟨if chosen owner then owner.reconcile reconciledAt else owner,
      List.mem_map.mpr ⟨owner,owned,rfl⟩,?_,?_⟩
    · split <;> exact same
    · split
      · rw [isPublished_reconcile]
        exact published
      · exact published
  · intro row member published delta event
    obtain ⟨old,stored,rfl⟩ := List.mem_map.mp member
    have oldPublished : old.isPublished = true := by
      split at published
      · rwa [isPublished_reconcile] at published
      · exact published
    have events : (if chosen old then old.reconcile reconciledAt else old).events = old.events := by
      split <;> rfl
    rw [events] at event
    exact coherent.publishedApplied old stored oldPublished delta event
  · intro bucket
    change projectedQuantity projections bucket = _
    rw [projected,reconcileTransitions,Table.total_updateWhere]
    apply Table.total_congr
    intro transition _
    have change : (if chosen transition then transition.reconcile reconciledAt
        else transition).change bucket = transition.change bucket := by split <;> rfl
    rw [change]

theorem rebuildInventoryProjection_coherent {connectivity cleared : Connectivity}
    {reconciledAt : Time} {count : ℕ} (coherent : inventory.Coherent registry)
    (rebuilt : rebuildInventoryProjection inventory connectivity reconciledAt =
      .ok (count,after,cleared)) : after.Coherent registry := by
  unfold rebuildInventoryProjection at rebuilt
  split at rebuilt
  · cases rebuilt
  · rename_i nonePending
    obtain ⟨projections,inserted,result⟩ := bind_eq_ok.mp rebuilt
    cases result
    have settledNow := pendingCount_eq_zero.mp (not_not.mp nonePending)
    have rows : projections.rows = rebuiltRows connectivity inventory.items := by
      have appended := (Table.insertMany_eq_some (orIntegrityError_eq_ok.mp inserted)).1
      simpa [Table.deleteWhere] using appended
    apply coherent.reconcile InventoryTransitionOutbox.unreconciled reconciledAt projections
    intro bucket
    rw [rebuilt_quantity rows]
    change (inventory.locatedCount bucket : ℤ) = _
    rw [← coherent.total_change bucket]
    apply Table.total_congr
    intro transition stored
    rw [reconcile_settled transition reconciledAt (settledNow transition stored),if_pos rfl]

end Coherence

end Abacus

import Abacus.Ingress.Windows
import Abacus.Inventory.Drift
import Abacus.Inventory.Verdicts

/-! What quarantines leave behind: rows that wait for a rebuild, and stores that are flagged for it. -/
set_option autoImplicit false

namespace Abacus

open Relational (Table OrderedDict)

section Flags

def Connectivity.Knows (connectivity : Connectivity) (storeId : Uuid) : Prop :=
  (connectivity.find? storeId).isSome = true

instance (connectivity : Connectivity) (storeId : Uuid) : Decidable (connectivity.Knows storeId) :=
  inferInstanceAs (Decidable (_ = true))

/-- The store is kept from automatic work until a rebuild. -/
def Connectivity.Flagged (connectivity : Connectivity) (storeId : Uuid) : Prop :=
  ∃ row, connectivity.find? storeId = some row ∧ row.inventoryReconciliationRequiredAt.isSome = true

def Connectivity.Keeps (connectivity after : Connectivity) : Prop :=
  ∀ storeId row, connectivity.find? storeId = some row → ∃ later,
    after.find? storeId = some later ∧ (row.inventoryReconciliationRequiredAt.isSome = true →
      later.inventoryReconciliationRequiredAt.isSome = true)

namespace Connectivity.Keeps

variable {connectivity middle after : Connectivity}

theorem refl (connectivity : Connectivity) : connectivity.Keeps connectivity :=
  fun _ row found => ⟨row,found,id⟩

theorem trans (left : connectivity.Keeps middle) (right : middle.Keeps after) :
    connectivity.Keeps after := by
  intro storeId row found
  obtain ⟨between,there,flag⟩ := left storeId row found
  obtain ⟨later,here,flag'⟩ := right storeId between there
  exact ⟨later,here,flag' ∘ flag⟩

theorem flagged (keeps : connectivity.Keeps after) {storeId : Uuid}
    (flagged : connectivity.Flagged storeId) : after.Flagged storeId := by
  obtain ⟨row,found,flag⟩ := flagged
  obtain ⟨later,here,still⟩ := keeps storeId row found
  exact ⟨later,here,still flag⟩

theorem knows (keeps : connectivity.Keeps after) {storeId : Uuid}
    (knows : connectivity.Knows storeId) : after.Knows storeId := by
  obtain ⟨row,found⟩ := Option.isSome_iff_exists.mp knows
  obtain ⟨later,here,-⟩ := keeps storeId row found
  exact Option.isSome_iff_exists.mpr ⟨later,here⟩

/-- An update that clears no flag. -/
theorem updateWhere (p : StoreConnectivity → Bool) {f : StoreConnectivity → StoreConnectivity}
    (same : ∀ row, (f row).storeId = row.storeId)
    (flags : ∀ row, row.inventoryReconciliationRequiredAt.isSome = true →
      (f row).inventoryReconciliationRequiredAt.isSome = true) :
    connectivity.Keeps (connectivity.updateWhere p f same) := by
  intro storeId row found
  refine ⟨if p row then f row else row,?_,?_⟩
  · rw [Table.find?_updateWhere,found]
    rfl
  · split
    · exact flags row
    · exact id

theorem modify (connectivity : Connectivity) (storeId : Uuid)
    {f : StoreConnectivity → StoreConnectivity} (same : ∀ row, (f row).storeId = row.storeId)
    (flags : ∀ row, (f row).inventoryReconciliationRequiredAt =
      row.inventoryReconciliationRequiredAt) :
    connectivity.Keeps (connectivity.modify storeId f same) :=
  updateWhere _ same fun row flag => by rw [flags]; exact flag

end Connectivity.Keeps

variable {stores : Table Store.id} {connectivity after : Connectivity}

theorem lockStoreConnectivityForReceipt_keeps {storeId : Uuid} {receivedAt : Time}
    {backlogDrained readerCoverageOk isCurrentReceipt : Bool}
    (locked : lockStoreConnectivityForReceipt stores connectivity storeId receivedAt backlogDrained
      readerCoverageOk = .ok (after,isCurrentReceipt)) :
    connectivity.Keeps after ∧ after.Knows storeId := by
  have recorded : ∀ (middle : Connectivity) (row : StoreConnectivity),
      connectivity.Keeps middle → middle.find? storeId = some row →
      connectivity.Keeps (middle.modify storeId
        (fun row => (row.recordReceipt receivedAt backlogDrained readerCoverageOk).1)
        (fun row => row.recordReceipt_storeId receivedAt backlogDrained readerCoverageOk)) ∧
      Connectivity.Knows (middle.modify storeId
        (fun row => (row.recordReceipt receivedAt backlogDrained readerCoverageOk).1)
        (fun row => row.recordReceipt_storeId receivedAt backlogDrained readerCoverageOk))
        storeId := by
    intro middle row kept found
    have modified := Connectivity.Keeps.modify middle storeId
      (fun row => row.recordReceipt_storeId receivedAt backlogDrained readerCoverageOk)
      (fun row => row.recordReceipt_reconciliation receivedAt backlogDrained readerCoverageOk)
    exact ⟨kept.trans modified,modified.knows (Option.isSome_iff_exists.mpr ⟨row,found⟩)⟩
  unfold lockStoreConnectivityForReceipt at locked
  split at locked
  · rename_i row found
    dsimp only [bind,Except.bind] at locked
    rw [found] at locked
    cases locked
    exact recorded connectivity row (.refl _) found
  · rename_i absent
    split at locked
    · cases locked
    · obtain ⟨middle,inserted,locked⟩ := bind_eq_ok.mp locked
      have added := orIntegrityError_eq_ok.mp inserted
      have kept : connectivity.Keeps middle := by
        intro other row found
        refine ⟨row,?_,id⟩
        rw [Table.find?_insert added,if_neg ?_]
        · exact found
        · intro same
          rw [← same,StoreConnectivity.firstReceipt,absent] at found
          cases found
      dsimp only at locked
      split at locked
      · cases locked
      · rename_i row found
        cases locked
        exact recorded middle row kept found

theorem updateConnectivity_keeps {event : RfidObservationEvent} {settings : Settings}
    (updated : updateConnectivity stores connectivity event settings = .ok after) :
    connectivity.Keeps after ∧ after.Knows event.storeId := by
  obtain ⟨⟨middle,isCurrentReceipt⟩,locked,updated⟩ := bind_eq_ok.mp updated
  cases updated
  obtain ⟨kept,known⟩ := lockStoreConnectivityForReceipt_keeps locked
  have applied := Connectivity.Keeps.modify middle event.storeId
    (fun row => row.applyObservation_storeId event settings isCurrentReceipt)
    (fun row => row.applyObservation_reconciliation event settings isCurrentReceipt)
  exact ⟨kept.trans applied,applied.knows known⟩

/-- A flagged store is not live, whatever its receipts say. -/
theorem Connectivity.Flagged.not_live {storeId : Uuid} (flagged : connectivity.Flagged storeId)
    (settings : Settings) (now : Time) :
    effectiveFreshness (connectivity.find? storeId) settings now ≠ .live := by
  obtain ⟨row,found,flag⟩ := flagged
  rw [found]
  unfold effectiveFreshness
  dsimp only
  split
  · rw [flag]
    simp only [if_true]
    split_ifs <;> simp
  · simp

end Flags

section Quarantined

def Inventory.SameQuarantine (inventory after : Inventory) : Prop :=
  ∀ transitionId row, row.isQuarantined = true →
    (after.transitions.find? transitionId = some row ↔
      inventory.transitions.find? transitionId = some row)

theorem Inventory.SameQuarantine.of_eq {inventory after : Inventory}
    (same : after.transitions = inventory.transitions) : inventory.SameQuarantine after := by
  intro transitionId row _
  rw [same]

variable {inventory after : Inventory}

/-- A change of a row that is quarantined neither before nor after. -/
theorem Inventory.SameQuarantine.modify {transitionId : Uuid}
    {f : InventoryTransitionOutbox → InventoryTransitionOutbox}
    (same : ∀ row, (f row).transitionId = row.transitionId) {stored : InventoryTransitionOutbox}
    (found : inventory.transitions.find? transitionId = some stored)
    (before : stored.isQuarantined = false) (later : (f stored).isQuarantined = false)
    (modified : after.transitions = inventory.transitions.modify transitionId f same) :
    inventory.SameQuarantine after := by
  intro other row quarantined
  rw [modified,Table.find?_modify]
  split
  · rename_i here
    rw [here,found,Option.map_some]
    constructor
    · intro equal
      cases equal
      rw [later] at quarantined
      cases quarantined
    · intro equal
      cases equal
      rw [before] at quarantined
      cases quarantined
  · rfl

theorem Inventory.SameQuarantine.insert {stored : InventoryTransitionOutbox}
    (inserted : inventory.transitions.insert stored = some after.transitions)
    (pending : stored.isQuarantined = false) : inventory.SameQuarantine after := by
  intro transitionId row quarantined
  rw [Table.find?_insert inserted]
  split
  · rename_i here
    have absent := (Table.insert_eq_some inserted).1
    rw [← here,absent]
    constructor
    · intro equal
      cases equal
      rw [pending] at quarantined
      cases quarantined
    · intro equal
      cases equal
  · rfl

theorem InventoryTransitionOutbox.isQuarantined_of_pending {transition : InventoryTransitionOutbox}
    (pending : transition.pending = true) : transition.isQuarantined = false := by
  rw [isQuarantined,show transition.status = .pending from of_decide_eq_true pending]

theorem applyTransition_sameQuarantine {registry : Registry} {connectivity : Connectivity}
    {transitionId : Uuid} {now : Time}
    (applied : applyTransition registry connectivity inventory transitionId now = .ok after) :
    inventory.SameQuarantine after := by
  unfold applyTransition at applied
  split at applied
  · cases applied
    exact .of_eq rfl
  · rename_i transition pending
    obtain ⟨found,waiting⟩ := pendingTransition_spec pending
    obtain ⟨deltas,-,applied⟩ := bind_eq_ok.mp applied
    obtain ⟨⟨count,middle⟩,accepted,result⟩ := bind_eq_ok.mp applied
    cases result
    have published : (middle.transitions.modify transitionId (fun row => row.publish now)
        (fun row => row.publish_transitionId now)) = inventory.transitions.modify transitionId
          (fun row => row.publish now) (fun row => row.publish_transitionId now) := by
      rw [(applyInventoryDeltas_spec accepted).transitions]
    exact .modify _ found (InventoryTransitionOutbox.isQuarantined_of_pending waiting) rfl published

theorem redeliverTransition_sameQuarantine {registry : Registry} {connectivity : Connectivity}
    {transitionId : Uuid}
    (redelivered : redeliverTransition registry connectivity inventory transitionId = .ok after) :
    inventory.SameQuarantine after := by
  unfold redeliverTransition at redelivered
  split at redelivered
  · cases redelivered
    exact .of_eq rfl
  · obtain ⟨deltas,-,applied⟩ := bind_eq_ok.mp redelivered
    obtain ⟨⟨count,middle⟩,accepted,result⟩ := bind_eq_ok.mp applied
    cases result
    exact .of_eq (applyInventoryDeltas_spec accepted).transitions

theorem recordTransition_sameQuarantine {registry : Registry} {next : CurrentItemState}
    {transitionId : Uuid} {deltas : List InventoryDeltaEvent} {createdAt : Time}
    (recorded : recordTransition registry inventory next transitionId deltas createdAt = .ok after) :
    inventory.SameQuarantine after :=
  .insert (recordTransition_spec recorded).inserted rfl

def InventoryTransitionOutbox.deltaStores (transition : InventoryTransitionOutbox) : List Uuid :=
  transition.deltas.filterMap fun payload => payload.event?.map InventoryDeltaEvent.storeId

theorem InventoryTransitionOutbox.mem_deltaStores {transition : InventoryTransitionOutbox}
    {storeId : Uuid} : storeId ∈ transition.deltaStores ↔
      ∃ delta, DeltaPayload.event delta ∈ transition.deltas ∧ delta.storeId = storeId := by
  rw [deltaStores,List.mem_filterMap]
  constructor
  · intro listed
    obtain ⟨payload,member,located⟩ := listed
    obtain ⟨delta,formed,same⟩ := Option.map_eq_some_iff.mp located
    cases payload with
    | event other =>
        cases formed
        exact ⟨delta,member,same⟩
    | invalid => cases formed
  · intro listed
    obtain ⟨delta,member,same⟩ := listed
    exact ⟨_,member,congrArg some same⟩

/-- Neither the payload nor the item names a store with a connectivity row. -/
def Unlocated (connectivity : Connectivity) (inventory : Inventory)
    (transition : InventoryTransitionOutbox) : Prop :=
  ∀ named ∈ transitionStoreIds inventory transition, ¬connectivity.Knows named

/-- What a failed attempt does when it does not exhaust the attempts. -/
theorem failTransition_sameQuarantine {settings : Settings} (connectivity : Connectivity)
    {transitionId : Uuid} (error : String) (now : Time)
    (left : exhaustedTransition settings inventory transitionId = none) :
    inventory.SameQuarantine (failTransition settings connectivity inventory transitionId error now).1 ∧
      (failTransition settings connectivity inventory transitionId error now).2 = connectivity := by
  unfold failTransition
  split
  · exact ⟨.of_eq rfl,rfl⟩
  · rename_i transition pending
    obtain ⟨found,waiting⟩ := pendingTransition_spec pending
    have remaining : ¬settings.workerMaxAttempts ≤ transition.publishAttempts + 1 := by
      intro exhausted
      rw [exhaustedTransition,pending,Option.filter_some,if_pos (decide_eq_true exhausted)] at left
      cases left
    dsimp only
    rw [if_neg remaining]
    have unquarantined := InventoryTransitionOutbox.isQuarantined_of_pending waiting
    exact ⟨.modify (fun row => row.countFailure_transitionId error) found unquarantined
      unquarantined rfl,rfl⟩

/-- What the last failed attempt does. -/
theorem failTransition_quarantines {settings : Settings} (connectivity : Connectivity)
    {transitionId : Uuid} (error : String) (now : Time) {transition : InventoryTransitionOutbox}
    (exhausted : exhaustedTransition settings inventory transitionId = some transition) :
    (∀ other, (failTransition settings connectivity inventory transitionId error
      now).1.transitions.find? other = if other = transitionId then
        some ((transition.countFailure error).quarantine error now)
        else inventory.transitions.find? other) ∧
    connectivity.Keeps (failTransition settings connectivity inventory transitionId error now).2 ∧
    ∀ storeId, connectivity.Knows storeId → storeId ∈ transition.deltaStores ∨
      Unlocated connectivity inventory transition → (failTransition settings connectivity inventory
        transitionId error now).2.Flagged storeId := by
  obtain ⟨pending,spent⟩ := Option.filter_eq_some_iff.mp exhausted
  obtain ⟨found,-⟩ := pendingTransition_spec pending
  have keyed : transition.transitionId = transitionId := Table.key_of_find? found
  unfold failTransition
  rw [pending]
  dsimp only
  rw [if_pos (of_decide_eq_true spent)]
  refine ⟨?_,?_,?_⟩
  · intro other
    simp only [quarantineTransition,keyed,Table.find?_modify]
    split
    · rw [found]
      rfl
    · rfl
  · exact .updateWhere _ (fun row => row.requireReconciliation_storeId now) fun _ _ => rfl
  · intro storeId known must
    obtain ⟨row,stored⟩ := Option.isSome_iff_exists.mp known
    have keyed : row.storeId = storeId := Table.key_of_find? stored
    have affected : affectedStore connectivity (transitionStoreIds inventory transition) row =
        true := by
      unfold affectedStore
      split
      · rename_i known
        rcases must with listed | unlocated
        · obtain ⟨delta,member,rfl⟩ := InventoryTransitionOutbox.mem_deltaStores.mp listed
          have named : delta.storeId ∈ transitionStoreIds inventory transition := by
            rw [transitionStoreIds,List.mem_append,List.mem_filterMap]
            exact .inl ⟨_,member,rfl⟩
          rw [keyed]
          exact decide_eq_true named
        · obtain ⟨other,place,named⟩ := List.any_eq_true.mp known
          exact absurd (Option.isSome_iff_exists.mpr ⟨other,Table.find?_of_mem place⟩)
            (unlocated _ (of_decide_eq_true named))
      · rfl
    refine ⟨row.requireReconciliation now,?_,rfl⟩
    have marked := connectivity.find?_updateWhere
      (affectedStore connectivity (transitionStoreIds inventory transition))
      (fun row => row.requireReconciliation now)
      (fun row => row.requireReconciliation_storeId now) storeId
    rw [stored,Option.map_some,if_pos affected] at marked
    exact marked

/-- A rebuild reconciles every quarantined row. -/
theorem rebuildInventoryProjection_reconciles {connectivity cleared : Connectivity} {now : Time}
    {count : ℕ}
    (rebuilt : rebuildInventoryProjection inventory connectivity now = .ok (count,after,cleared)) :
    (∀ transitionId, after.transitions.find? transitionId =
      (inventory.transitions.find? transitionId).map fun row =>
        if row.unreconciled then row.reconcile now else row) ∧
    ∀ storeId, connectivity.Knows storeId → cleared.Knows storeId := by
  unfold rebuildInventoryProjection at rebuilt
  split at rebuilt
  · cases rebuilt
  · obtain ⟨projections,-,result⟩ := bind_eq_ok.mp rebuilt
    cases result
    refine ⟨inventory.transitions.find?_updateWhere InventoryTransitionOutbox.unreconciled
      (fun row => row.reconcile now) (fun row => row.reconcile_transitionId now),?_⟩
    intro storeId known
    rw [Connectivity.Knows,clearReconciliation,Table.find?_updateWhere,Option.isSome_map]
    exact known

end Quarantined

section Naming

theorem inferStableZone_read {observations : List RfidObservationEvent} {settings : Settings}
    {decision : StableZoneDecision}
    (inferred : inferStableZone observations settings = some decision) :
    ∃ read ∈ observations, read.storeId = decision.location.storeId := by
  unfold inferStableZone inferZone at inferred
  split at inferred
  · cases inferred
  · rename_i winner others order
    split at inferred
    · cases inferred
    · rename_i first rest reads
      have placed : winner ∈ ranked observations := by
        rw [order]
        exact List.mem_cons_self ..
      obtain ⟨⟨location,group⟩,grouped,rfl⟩ :=
        List.mem_map.mp ((List.perm_insertionSort _ _).mem_iff.mp placed)
      have member : first ∈ group := by
        rw [show group = first :: rest from reads]
        exact List.mem_cons_self ..
      rw [(OrderedDict.mem_groupBy grouped).1] at member
      obtain ⟨listed,here⟩ := List.mem_filter.mp member
      have chosen : decision.location = location := by
        split at inferred
        · cases inferred
        · split at inferred
          · cases inferred
          · cases inferred
            rfl
      refine ⟨first,listed,?_⟩
      rw [chosen,← of_decide_eq_true here]
      rfl

/-- Every store that an item, a read in a window of the tenant or an intact transition names has a
connectivity row. -/
structure Named (tenantId : Uuid) (corrupted : List Uuid) (inventory : Inventory)
    (recent : RecentObservationState) (connectivity : Connectivity) : Prop where
  placed : ∀ item ∈ inventory.items.rows, ∀ location ∈ item.location,
    connectivity.Knows location.storeId
  read : ∀ key window, recent.windows.get? key = some window → key.1 = tenantId →
    ∀ read ∈ window, connectivity.Knows read.storeId
  intact : ∀ row ∈ inventory.transitions.rows, row.transitionId ∉ corrupted → ∀ delta,
    DeltaPayload.event delta ∈ row.deltas → connectivity.Knows delta.storeId

namespace Named

variable {tenantId : Uuid} {corrupted : List Uuid} {inventory after : Inventory}
  {recent memory : RecentObservationState} {connectivity later : Connectivity}

theorem keep (named : Named tenantId corrupted inventory recent connectivity)
    (items : after.items = inventory.items) (entries : after.entries = inventory.entries)
    (windows : ∀ key window, memory.windows.get? key = some window → key.1 = tenantId →
      recent.windows.get? key = some window)
    (knows : ∀ storeId, connectivity.Knows storeId → later.Knows storeId) :
    Named tenantId corrupted after memory later := by
  refine ⟨?_,?_,?_⟩
  · intro item member location here
    rw [items] at member
    exact knows _ (named.placed item member location here)
  · intro key window found own read member
    exact knows _ (named.read key window (windows key window found own) own read member)
  · intro row member intact delta listed
    have entered : row.entry ∈ after.entries := List.mem_map_of_mem member
    rw [entries] at entered
    obtain ⟨old,stored,same⟩ := List.mem_map.mp entered
    have keyed : old.transitionId = row.transitionId := congrArg TransitionEntry.transitionId same
    have payload : old.deltas = row.deltas := congrArg TransitionEntry.deltas same
    exact knows _ (named.intact old stored (keyed ▸ intact) delta (payload ▸ listed))

/-- An item is written where stores are known. -/
theorem put (named : Named tenantId corrupted inventory recent connectivity)
    {item : CurrentItemState}
    (known : ∀ location ∈ item.location, connectivity.Knows location.storeId) :
    Named tenantId corrupted { inventory with items := inventory.items.put item } recent
      connectivity := by
  refine ⟨?_,named.read,named.intact⟩
  intro row member location here
  rcases Table.mem_put.mp member with same | ⟨old,-⟩
  · rw [same] at here
    exact known location here
  · exact named.placed row old location here

theorem recorded (named : Named tenantId corrupted inventory recent connectivity)
    {registry : Registry} {next : CurrentItemState} {transitionId : Uuid}
    {deltas : List InventoryDeltaEvent} {createdAt : Time}
    (written : recordTransition registry inventory next transitionId deltas createdAt = .ok after)
    (located : ∀ location ∈ next.location, connectivity.Knows location.storeId)
    (known : ∀ delta ∈ deltas, connectivity.Knows delta.storeId) :
    Named tenantId corrupted after recent connectivity := by
  have spec := recordTransition_spec written
  refine ⟨?_,named.read,?_⟩
  · intro row member location here
    rw [spec.items] at member
    rcases Table.mem_put.mp member with same | ⟨old,-⟩
    · rw [same] at here
      exact located location here
    · exact named.placed row old location here
  · intro row member intact delta listed
    rcases (Table.mem_insert spec.inserted).mp member with old | rfl
    · exact named.intact row old intact delta listed
    · obtain ⟨other,stored,same⟩ := List.mem_map.mp listed
      cases same
      exact known delta stored

/-- The stores of a move: where the item was, and where it is now. -/
theorem moved {transitionId : Uuid} {epc : Epc} {source target : Option Bucket}
    {confidence : Confidence} {observedAt : Time}
    (left : ∀ bucket ∈ source, connectivity.Knows bucket.storeId)
    (entered : ∀ bucket ∈ target, connectivity.Knows bucket.storeId) :
    ∀ delta ∈ moveDeltas transitionId epc source target confidence observedAt,
      connectivity.Knows delta.storeId := by
  intro delta member
  rcases mem_moveDeltas.mp member with ⟨bucket,here,rfl⟩ | ⟨bucket,here,rfl⟩
  · exact left bucket here
  · exact entered bucket here

theorem bucket (named : Named tenantId corrupted inventory recent connectivity)
    {epc : Epc} {item : CurrentItemState} (found : inventory.items.find? epc = some item) :
    ∀ bucket ∈ item.bucket?, connectivity.Knows bucket.storeId := by
  intro bucket here
  obtain ⟨location,placed,rfl⟩ := Option.map_eq_some_iff.mp here
  exact named.placed item (Table.mem_of_find? found) location placed

theorem windowOf (named : Named tenantId corrupted inventory recent connectivity)
    {event : RfidObservationEvent} (own : event.tenantId = tenantId) :
    ∀ read ∈ recent.windowOf event, connectivity.Knows read.storeId := by
  intro read member
  unfold RecentObservationState.windowOf at member
  cases stored : recent.windows.get? event.windowKey with
  | none =>
      rw [stored] at member
      cases member
  | some window =>
      rw [stored] at member
      exact named.read _ window stored own read member

/-- A read of a known store goes into its window. -/
theorem add (named : Named tenantId corrupted inventory recent connectivity)
    {event : RfidObservationEvent} (windowSeconds : ℕ) (evidenceNotBefore : Option Time)
    (known : connectivity.Knows event.storeId) :
    Named tenantId corrupted inventory (recent.add event windowSeconds evidenceNotBefore).2
      connectivity := by
  refine ⟨named.placed,?_,named.intact⟩
  intro key window found own read member
  have entry := RecentObservationState.get?_add found
  split at entry
  · rename_i here
    rw [entry] at member
    rw [← here] at own
    rcases RecentObservationState.mem_of_retained member with old | rfl
    · exact named.windowOf own read old
    · exact known
  · exact named.read key window entry own read member

/-- The reads that a decision is drawn from are of known stores. -/
theorem window (named : Named tenantId corrupted inventory recent connectivity)
    {event : RfidObservationEvent} (windowSeconds : ℕ) (evidenceNotBefore : Option Time)
    (own : event.tenantId = tenantId) (known : connectivity.Knows event.storeId) :
    ∀ read ∈ (recent.add event windowSeconds evidenceNotBefore).1,
      connectivity.Knows read.storeId := by
  intro read member
  rw [RecentObservationState.add_window] at member
  rcases RecentObservationState.mem_of_retained member with old | rfl
  · exact named.windowOf own read old
  · exact known

end Named

end Naming

end Abacus

import Abacus.Model.EventWorker

/-! What applying deltas and rebuilding do to projected quantities. -/
set_option autoImplicit false

namespace Abacus

open Relational (Table OrderedDict)

section Quantities

def projectedQuantity (projections : Table InventoryProjection.bucket) (bucket : Bucket) : ℤ :=
  (projections.find? bucket).elim 0 InventoryProjection.quantity

def Inventory.quantity (inventory : Inventory) (bucket : Bucket) : ℤ :=
  projectedQuantity inventory.projections bucket

def deltaSum (deltas : List InventoryDeltaEvent) (bucket : Bucket) : ℤ :=
  (deltas.map fun delta => if delta.bucket = bucket then delta.quantityDelta else 0).sum

@[simp] theorem deltaSum_nil (bucket : Bucket) : deltaSum [] bucket = 0 := rfl

@[simp] theorem deltaSum_cons (delta : InventoryDeltaEvent) (deltas : List InventoryDeltaEvent)
    (bucket : Bucket) :
    deltaSum (delta :: deltas) bucket =
      (if delta.bucket = bucket then delta.quantityDelta else 0) + deltaSum deltas bucket := rfl

@[simp] theorem deltaSum_append (first second : List InventoryDeltaEvent) (bucket : Bucket) :
    deltaSum (first ++ second) bucket = deltaSum first bucket + deltaSum second bucket := by
  simp [deltaSum]

theorem deltaSum_filter (deltas : List InventoryDeltaEvent) (bucket : Bucket) :
    ((deltas.filter fun delta => delta.bucket = bucket).map
      InventoryDeltaEvent.quantityDelta).sum = deltaSum deltas bucket := by
  induction deltas with
  | nil => rfl
  | cons delta deltas ih =>
      by_cases here : delta.bucket = bucket
      · rw [List.filter_cons_of_pos (by simpa using here),List.map_cons,List.sum_cons,ih]
        simp [here]
      · rw [List.filter_cons_of_neg (by simpa using here),ih]
        simp [here]

def groupSum (groups : List (Bucket × List InventoryDeltaEvent)) (bucket : Bucket) : ℤ :=
  (groups.map fun entry =>
    if entry.1 = bucket then (entry.2.map InventoryDeltaEvent.quantityDelta).sum else 0).sum

theorem groupSum_groupBy (deltas : List InventoryDeltaEvent) (bucket : Bucket) :
    groupSum (OrderedDict.groupBy InventoryDeltaEvent.bucket deltas).rows bucket =
      deltaSum deltas bucket := by
  have grouped := OrderedDict.total_at (OrderedDict.groupBy InventoryDeltaEvent.bucket deltas)
    bucket fun group => (group.map InventoryDeltaEvent.quantityDelta).sum
  rw [groupSum]
  rw [Table.total] at grouped
  rw [grouped,OrderedDict.get?_groupBy]
  split
  · exact deltaSum_filter deltas bucket
  · rename_i absent
    have none_here : (deltas.filter fun delta => delta.bucket = bucket) = [] := by
      simpa using absent
    rw [← deltaSum_filter,none_here]
    rfl

end Quantities

section Applying

theorem projectGroup_quantity {connectivity : Connectivity}
    {projections projected : Table InventoryProjection.bucket} {bucket : Bucket}
    {group : List InventoryDeltaEvent}
    (accepted : projectGroup connectivity projections bucket group = .ok projected)
    (other : Bucket) :
    projectedQuantity projected other = projectedQuantity projections other +
      if bucket = other then (group.map InventoryDeltaEvent.quantityDelta).sum else 0 := by
  unfold projectGroup at accepted
  dsimp only at accepted
  cases found : projections.find? bucket with
  | none =>
      rw [found] at accepted
      simp only at accepted
      split at accepted
      · cases accepted
      · have inserted := orIntegrityError_eq_ok.mp accepted
        simp only [projectedQuantity,Table.find?_insert inserted]
        by_cases same : bucket = other
        · subst same
          simp [InventoryProjection.bucket,found]
        · simp [InventoryProjection.bucket,same]
  | some projection =>
      rw [found] at accepted
      simp only at accepted
      split at accepted
      · cases accepted
      · cases accepted
        unfold projectedQuantity
        rw [Table.find?_modify]
        by_cases same : bucket = other
        · subst same
          simp [found]
        · simp [same,Ne.symm same]

theorem projectGroups_quantity {connectivity : Connectivity}
    {projections projected : Table InventoryProjection.bucket}
    {groups : List (Bucket × List InventoryDeltaEvent)}
    (accepted : projectGroups connectivity projections groups = .ok projected) (bucket : Bucket) :
    projectedQuantity projected bucket = projectedQuantity projections bucket +
      groupSum groups bucket := by
  induction groups generalizing projections with
  | nil => cases accepted; simp [groupSum]
  | cons entry groups ih =>
      obtain ⟨middle,first,rest⟩ := bind_eq_ok.mp accepted
      rw [ih rest,projectGroup_quantity first bucket]
      simp only [groupSum,List.map_cons,List.sum_cons]
      ring

/-- A group is refused only when it would leave a negative quantity. -/
theorem projectGroup_accepts (connectivity : Connectivity)
    {projections : Table InventoryProjection.bucket} {bucket : Bucket}
    {group : List InventoryDeltaEvent}
    (nonnegative : 0 ≤ projectedQuantity projections bucket +
      (group.map InventoryDeltaEvent.quantityDelta).sum) :
    ∃ projected, projectGroup connectivity projections bucket group = .ok projected := by
  unfold projectGroup
  dsimp only
  cases found : projections.find? bucket with
  | none =>
      simp only [projectedQuantity,found,Option.elim_none,zero_add] at nonnegative
      simp only [not_lt.mpr nonnegative,if_false]
      obtain ⟨projected,inserted⟩ := projections.insert_of_fresh
        { storeId := bucket.storeId, skuId := bucket.skuId, zoneId := bucket.zoneId,
          quantity := (group.map InventoryDeltaEvent.quantityDelta).sum,
          asOf := (group.map InventoryDeltaEvent.observedAt).max?.getD 0,
          confidence := (group.map InventoryDeltaEvent.confidence).min?.getD (Confidence.clamp 0),
          freshnessStatus := Connectivity.freshnessOf connectivity bucket.storeId } found
      exact ⟨projected,orIntegrityError_eq_ok.mpr inserted⟩
  | some projection =>
      simp only [projectedQuantity,found,Option.elim_some] at nonnegative
      simp only [not_lt.mpr nonnegative,if_false]
      exact ⟨_,rfl⟩

theorem projectGroups_accepts (connectivity : Connectivity)
    {projections : Table InventoryProjection.bucket}
    {groups : List (Bucket × List InventoryDeltaEvent)} (distinct : (groups.map Prod.fst).Nodup)
    (nonnegative : ∀ bucket, 0 ≤ projectedQuantity projections bucket + groupSum groups bucket) :
    ∃ projected, projectGroups connectivity projections groups = .ok projected := by
  induction groups generalizing projections with
  | nil => exact ⟨projections,rfl⟩
  | cons entry groups ih =>
      obtain ⟨absent,distinct⟩ := List.nodup_cons.mp distinct
      have later : groupSum groups entry.1 = 0 := by
        apply List.sum_eq_zero
        intro weight member
        obtain ⟨other,place,rfl⟩ := List.mem_map.mp member
        rw [if_neg]
        intro same
        exact absent (same ▸ List.mem_map_of_mem place)
      have here := nonnegative entry.1
      simp only [groupSum,List.map_cons,List.sum_cons,if_true] at here
      simp only [groupSum] at later
      rw [later,add_zero] at here
      obtain ⟨middle,first⟩ := projectGroup_accepts connectivity here
      have rest : ∀ bucket, 0 ≤ projectedQuantity middle bucket + groupSum groups bucket := by
        intro bucket
        have total := nonnegative bucket
        rw [projectGroup_quantity first bucket]
        simp only [groupSum,List.map_cons,List.sum_cons] at total ⊢
        rw [add_assoc]
        exact total
      obtain ⟨projected,applied⟩ := ih distinct rest
      exact ⟨projected,bind_eq_ok.mpr ⟨middle,first,applied⟩⟩

/-- The fresh deltas of a batch are its distinct deltas whose identifier is not yet applied. -/
theorem freshDeltas_eq (applied : Table AppliedInventoryDelta.deltaId)
    (deltas : List InventoryDeltaEvent) :
    freshDeltas applied deltas =
      (OrderedDict.ofList InventoryDeltaEvent.deltaId deltas).values.filter fun delta =>
        (applied.find? delta.deltaId).isNone := by
  have distinct : (((OrderedDict.ofList InventoryDeltaEvent.deltaId deltas).values.map
      AppliedInventoryDelta.ofEvent).map AppliedInventoryDelta.deltaId).Nodup := by
    have values := OrderedDict.values_ofList_nodup InventoryDeltaEvent.deltaId deltas
    simpa [Function.comp_def,AppliedInventoryDelta.ofEvent] using values
  unfold freshDeltas
  dsimp only
  rw [Table.inserted_insertManyNew distinct]
  apply List.filter_congr
  intro delta member
  cases found : applied.find? delta.deltaId with
  | none =>
      simp only [Option.isNone_none,decide_eq_true_eq,List.mem_map,List.mem_filter]
      exact ⟨AppliedInventoryDelta.ofEvent delta,
        ⟨⟨delta,member,rfl⟩,by simp [AppliedInventoryDelta.ofEvent,found]⟩,rfl⟩
  | some old =>
      simp only [Option.isNone_some,decide_eq_false_iff_not,List.mem_map,List.mem_filter]
      rintro ⟨row,⟨⟨other,-,rfl⟩,fresh⟩,same⟩
      have same : other.deltaId = delta.deltaId := same
      rw [AppliedInventoryDelta.ofEvent,same,found] at fresh
      cases fresh

/-- Deltas with distinct identifiers, none of them applied before, are all fresh. -/
theorem freshDeltas_of_new {applied : Table AppliedInventoryDelta.deltaId}
    {deltas : List InventoryDeltaEvent} (distinct : (deltas.map InventoryDeltaEvent.deltaId).Nodup)
    (unapplied : ∀ delta ∈ deltas, applied.find? delta.deltaId = none) :
    freshDeltas applied deltas = deltas := by
  rw [freshDeltas_eq,OrderedDict.values_ofList distinct,List.filter_eq_self]
  intro delta member
  simp [unapplied delta member]

/-- A batch of deltas that were all applied before has no fresh delta. -/
theorem freshDeltas_of_applied {applied : Table AppliedInventoryDelta.deltaId}
    {deltas : List InventoryDeltaEvent}
    (known : ∀ delta ∈ deltas, (applied.find? delta.deltaId).isSome) :
    freshDeltas applied deltas = [] := by
  rw [freshDeltas_eq,List.filter_eq_nil_iff]
  intro delta member
  obtain ⟨entry,place,rfl⟩ := List.mem_map.mp member
  have listed := (OrderedDict.mem_ofList place).2
  obtain ⟨row,found⟩ := Option.isSome_iff_exists.mp (known entry.2 listed)
  simp [found]

/-- What a successful call of `apply_inventory_deltas` does. -/
structure Applied (inventory after : Inventory) (fresh : List InventoryDeltaEvent) : Prop where
  items : after.items = inventory.items
  transitions : after.transitions = inventory.transitions
  businessEvents : after.businessEvents = inventory.businessEvents
  applied : after.applied.rows = inventory.applied.rows ++ fresh.map AppliedInventoryDelta.ofEvent
  quantity : ∀ bucket, after.quantity bucket = inventory.quantity bucket + deltaSum fresh bucket

private theorem inserted_eq_fresh (applied : Table AppliedInventoryDelta.deltaId)
    (deltas : List InventoryDeltaEvent) :
    (applied.insertManyNew ((OrderedDict.ofList InventoryDeltaEvent.deltaId deltas).values.map
      AppliedInventoryDelta.ofEvent)).2 =
      (freshDeltas applied deltas).map AppliedInventoryDelta.ofEvent := by
  have distinct : (((OrderedDict.ofList InventoryDeltaEvent.deltaId deltas).values.map
      AppliedInventoryDelta.ofEvent).map AppliedInventoryDelta.deltaId).Nodup := by
    have values := OrderedDict.values_ofList_nodup InventoryDeltaEvent.deltaId deltas
    simpa [Function.comp_def,AppliedInventoryDelta.ofEvent] using values
  rw [Table.inserted_insertManyNew distinct,freshDeltas_eq,List.filter_map]
  rfl

theorem applyInventoryDeltas_spec {registry : Registry} {connectivity : Connectivity}
    {inventory after : Inventory} {deltas : List InventoryDeltaEvent} {count : ℕ}
    (accepted : applyInventoryDeltas registry connectivity inventory deltas = .ok (count,after)) :
    Applied inventory after (freshDeltas inventory.applied deltas) := by
  unfold applyInventoryDeltas at accepted
  split at accepted
  · rename_i empty
    cases accepted
    have nothing : deltas = [] := by simpa using empty
    subst nothing
    refine ⟨rfl,rfl,rfl,?_,?_⟩
    · simp [freshDeltas_eq,OrderedDict.ofList,OrderedDict.values]
    · simp [freshDeltas_eq,OrderedDict.ofList,OrderedDict.values]
  · dsimp only at accepted
    split at accepted
    · cases accepted
    · obtain ⟨projections,projected,result⟩ := bind_eq_ok.mp accepted
      cases result
      refine ⟨rfl,rfl,rfl,?_,?_⟩
      · rw [Table.rows_insertManyNew,inserted_eq_fresh]
      · intro bucket
        rw [Inventory.quantity,projectGroups_quantity projected,groupSum_groupBy]
        rfl

/-- `apply_inventory_deltas` reaches a negative-quantity error only if some bucket would become
negative. -/
theorem applyInventoryDeltas_no_valueError {registry : Registry} {connectivity : Connectivity}
    {inventory : Inventory} {deltas : List InventoryDeltaEvent}
    (nonnegative : ∀ bucket, 0 ≤ inventory.quantity bucket +
      deltaSum (freshDeltas inventory.applied deltas) bucket) (message : String) :
    applyInventoryDeltas registry connectivity inventory deltas ≠ .error (.valueError message) := by
  intro failed
  unfold applyInventoryDeltas at failed
  split at failed
  · cases failed
  · dsimp only at failed
    split at failed
    · cases failed
    · obtain ⟨projections,projected⟩ := projectGroups_accepts connectivity
        (OrderedDict.groupBy InventoryDeltaEvent.bucket
          (freshDeltas inventory.applied deltas)).unique
        (fun bucket => by rw [groupSum_groupBy]; exact nonnegative bucket)
      rw [projected] at failed
      cases failed

end Applying

section Rebuilding

def Inventory.locatedCount (inventory : Inventory) (bucket : Bucket) : ℕ :=
  inventory.items.rows.countP fun state => decide (state.bucket? = some bucket)

theorem locatedGroups_length (items : Table CurrentItemState.epc) (bucket : Bucket) :
    ((OrderedDict.get? (locatedGroups items) bucket).elim 0 List.length) =
      items.rows.countP fun state => decide (state.bucket? = some bucket) := by
  have counted : ∀ rows : List CurrentItemState,
      ((rows.filterMap fun state => state.bucket?.map fun bucket => (bucket,state)).filter
        fun entry => entry.1 = bucket).length =
      rows.countP fun state => decide (state.bucket? = some bucket) := by
    intro rows
    induction rows with
    | nil => rfl
    | cons state rows ih =>
        cases place : state.bucket? with
        | none => simpa [place] using ih
        | some here =>
            by_cases same : here = bucket
            · simp [place,same,ih]
            · simp [place,same,ih]
  rw [locatedGroups,OrderedDict.get?_groupBy,← counted]
  split
  · rfl
  · rename_i absent
    have nothing : ((items.rows.filterMap fun state =>
        state.bucket?.map fun bucket => (bucket,state)).filter
          fun entry => entry.1 = bucket) = [] := by
      rw [List.filter_eq_nil_iff]
      intro entry member same
      exact absent (List.any_eq_true.mpr ⟨entry,member,same⟩)
    rw [nothing]
    rfl

def InventoryProjection.tally (row : InventoryProjection) : Bucket × ℤ := (row.bucket,row.quantity)

def groupTally (entry : Bucket × List (Bucket × CurrentItemState)) : Bucket × ℤ :=
  (entry.1,entry.2.length)

/-- A table that tallies with the located items holds exactly their census. -/
theorem tallied_quantity {items : Table CurrentItemState.epc}
    {projections : Table InventoryProjection.bucket}
    (tallied : projections.rows.map InventoryProjection.tally =
      (locatedGroups items).rows.map groupTally) (bucket : Bucket) :
    projectedQuantity projections bucket =
      (items.rows.countP fun state => decide (state.bucket? = some bucket) : ℕ) := by
  rw [projectedQuantity,← locatedGroups_length]
  cases found : projections.find? bucket with
  | some row =>
      have keyed : row.bucket = bucket := Table.key_of_find? found
      have listed := List.mem_map_of_mem (f := InventoryProjection.tally) (Table.mem_of_find? found)
      rw [tallied] at listed
      obtain ⟨⟨here,group⟩,member,same⟩ := List.mem_map.mp listed
      obtain ⟨place,quantity⟩ := Prod.mk.inj same
      have located : OrderedDict.get? (locatedGroups items) bucket = some group := by
        rw [OrderedDict.get?_eq_some_iff,← keyed,← place]
        exact member
      simp [located,← quantity]
  | none =>
      cases located : OrderedDict.get? (locatedGroups items) bucket with
      | none => rfl
      | some group =>
          have member := (OrderedDict.get?_eq_some_iff _ _ _).mp located
          have listed := List.mem_map_of_mem (f := groupTally) member
          rw [← tallied] at listed
          obtain ⟨row,stored,same⟩ := List.mem_map.mp listed
          exact absurd (Prod.mk.inj same).1 ((projections.find?_eq_none_iff bucket).mp found row stored)

/-- A table of the rebuilt rows holds exactly the census of the located items. -/
theorem rebuilt_quantity {connectivity : Connectivity} {items : Table CurrentItemState.epc}
    {projections : Table InventoryProjection.bucket}
    (rows : projections.rows = rebuiltRows connectivity items) (bucket : Bucket) :
    projectedQuantity projections bucket =
      (items.rows.countP fun state => decide (state.bucket? = some bucket) : ℕ) := by
  apply tallied_quantity
  rw [rows,rebuiltRows,List.map_map]
  rfl

theorem rebuiltRows_keys (connectivity : Connectivity) (items : Table CurrentItemState.epc) :
    (rebuiltRows connectivity items).map InventoryProjection.bucket =
      (locatedGroups items).rows.map Prod.fst := by
  simp [rebuiltRows,rebuiltRow,InventoryProjection.bucket,Function.comp_def]

theorem rebuiltRows_insert (connectivity : Connectivity) (items : Table CurrentItemState.epc) :
    ∃ projections : Table InventoryProjection.bucket,
      (Table.empty : Table InventoryProjection.bucket).insertMany
        (rebuiltRows connectivity items) = some projections := by
  apply Table.insertMany_of_fresh
  · intro row _
    rfl
  · rw [rebuiltRows_keys]
    exact (locatedGroups items).unique

end Rebuilding

end Abacus

import Mathlib.Algebra.BigOperators.Group.Finset.Basic
import Abacus.Inventory.Projection
import Abacus.Model.Sample

/-! Sequences of delta batches, some of which fail.
A delta counts once, in the first call that applies it, so the quantities depend on the set of
the deltas that were applied and not on how batches split, order or repeat them.
-/
set_option autoImplicit false

namespace Abacus

open Relational (Table OrderedDict)

section Calls

/-- One call in its own transaction, which may still be rolled back when the call returned. -/
structure DeltaCall where
  registry : Registry
  connectivity : Connectivity
  deltas : List InventoryDeltaEvent
  commits : Bool := true

namespace DeltaCall

def Succeeds (call : DeltaCall) (inventory after : Inventory) : Prop :=
  call.commits = true ∧ ∃ count,
    applyInventoryDeltas call.registry call.connectivity inventory call.deltas = .ok (count,after)

def result? (call : DeltaCall) (inventory : Inventory) : Option Inventory :=
  if call.commits then
    (applyInventoryDeltas call.registry call.connectivity inventory call.deltas).toOption.map Prod.snd
  else none

theorem result?_eq_some {call : DeltaCall} {inventory after : Inventory} :
    call.result? inventory = some after ↔ call.Succeeds inventory after := by
  unfold result? Succeeds
  cases call.commits with
  | false => simp
  | true =>
      cases applyInventoryDeltas call.registry call.connectivity inventory call.deltas with
      | error failure => simp [Except.toOption]
      | ok applied =>
          obtain ⟨count,left⟩ := applied
          simp [Except.toOption]

end DeltaCall

/-- A failed call leaves what it found. -/
def runCalls (inventory : Inventory) : List DeltaCall → Inventory
  | [] => inventory
  | call :: calls => runCalls ((call.result? inventory).getD inventory) calls

def succeededDeltas (inventory : Inventory) : List DeltaCall → List InventoryDeltaEvent
  | [] => []
  | call :: calls =>
      (if (call.result? inventory).isSome then call.deltas else []) ++
        succeededDeltas ((call.result? inventory).getD inventory) calls

def AllSucceed (inventory : Inventory) : List DeltaCall → Prop
  | [] => True
  | call :: calls => ∃ after, call.Succeeds inventory after ∧ AllSucceed after calls

def Identical (deltas : List InventoryDeltaEvent) : Prop :=
  ∀ delta ∈ deltas, ∀ other ∈ deltas, delta.deltaId = other.deltaId → delta = other

theorem Identical.sublist {deltas others : List InventoryDeltaEvent} (identical : Identical others)
    (included : ∀ delta ∈ deltas, delta ∈ others) : Identical deltas :=
  fun delta member other listed => identical delta (included delta member) other (included other listed)

theorem succeededDeltas_subset (inventory : Inventory) (calls : List DeltaCall) :
    ∀ delta ∈ succeededDeltas inventory calls, delta ∈ calls.flatMap DeltaCall.deltas := by
  induction calls generalizing inventory with
  | nil => simp [succeededDeltas]
  | cons call calls ih =>
      intro delta member
      rw [List.flatMap_cons]
      rcases List.mem_append.mp member with now | later
      · split at now
        · exact List.mem_append_left _ now
        · cases now
      · exact List.mem_append_right _ (ih _ delta later)

theorem succeededDeltas_of_all {inventory : Inventory} {calls : List DeltaCall}
    (all : AllSucceed inventory calls) :
    succeededDeltas inventory calls = calls.flatMap DeltaCall.deltas := by
  induction calls generalizing inventory with
  | nil => rfl
  | cons call calls ih =>
      obtain ⟨after,succeeds,rest⟩ := all
      rw [← DeltaCall.result?_eq_some] at succeeds
      rw [succeededDeltas,succeeds,Option.isSome_some,if_pos rfl,Option.getD_some,ih rest,
        List.flatMap_cons]

theorem runCalls_append (inventory : Inventory) (first second : List DeltaCall) :
    runCalls inventory (first ++ second) = runCalls (runCalls inventory first) second := by
  induction first generalizing inventory with
  | nil => rfl
  | cons call calls ih => rw [List.cons_append,runCalls,runCalls,ih]

end Calls

section Once

def bucketSum (deltas : Finset InventoryDeltaEvent) (bucket : Bucket) : ℤ :=
  ∑ delta ∈ deltas, if delta.bucket = bucket then delta.quantityDelta else 0

def unapplied (inventory : Inventory) (deltas : List InventoryDeltaEvent) :
    Finset InventoryDeltaEvent :=
  deltas.toFinset.filter fun delta => inventory.applied.find? delta.deltaId = none

variable {inventory after : Inventory} {deltas : List InventoryDeltaEvent}

theorem mem_unapplied {delta : InventoryDeltaEvent} : delta ∈ unapplied inventory deltas ↔
    delta ∈ deltas ∧ inventory.applied.find? delta.deltaId = none := by
  simp [unapplied]

theorem deltaSum_eq_bucketSum (distinct : deltas.Nodup) (bucket : Bucket) :
    deltaSum deltas bucket = bucketSum deltas.toFinset bucket :=
  (List.sum_toFinset _ distinct).symm

theorem freshDeltas_nodup (applied : Table AppliedInventoryDelta.deltaId)
    (deltas : List InventoryDeltaEvent) : (freshDeltas applied deltas).Nodup := by
  have values := OrderedDict.values_ofList_nodup InventoryDeltaEvent.deltaId deltas
  rw [freshDeltas_eq]
  exact (List.Nodup.of_map _ values).filter _

/-- Where deltas with one identifier are identical, deduplication loses none. -/
theorem mem_values_ofList (identical : Identical deltas) {delta : InventoryDeltaEvent} :
    delta ∈ (OrderedDict.ofList InventoryDeltaEvent.deltaId deltas).values ↔ delta ∈ deltas := by
  constructor
  · intro member
    obtain ⟨entry,listed,rfl⟩ := List.mem_map.mp member
    exact (OrderedDict.mem_ofList listed).2
  · intro member
    obtain ⟨last,listed⟩ : ∃ last, (delta.deltaId,last) ∈
        (OrderedDict.ofList InventoryDeltaEvent.deltaId deltas).rows := OrderedDict.exists_ofList member
    obtain ⟨same,stored⟩ := OrderedDict.mem_ofList listed
    rw [identical delta member last stored same]
    exact List.mem_map_of_mem (f := Prod.snd) listed

theorem freshDeltas_toFinset (identical : Identical deltas) :
    (freshDeltas inventory.applied deltas).toFinset = unapplied inventory deltas := by
  ext delta
  rw [List.mem_toFinset,freshDeltas_eq,List.mem_filter,mem_values_ofList identical,mem_unapplied,
    Option.isNone_iff_eq_none]

/-- What one successful call brings. -/
theorem Applied.quantity_unapplied
    (applied : Applied inventory after (freshDeltas inventory.applied deltas))
    (identical : Identical deltas) (bucket : Bucket) :
    after.quantity bucket = inventory.quantity bucket +
      bucketSum (unapplied inventory deltas) bucket := by
  rw [applied.quantity,deltaSum_eq_bucketSum (freshDeltas_nodup _ _),freshDeltas_toFinset identical]

/-- After a successful call the applied table has the deltas of the call. -/
theorem Applied.unknown_iff
    (applied : Applied inventory after (freshDeltas inventory.applied deltas))
    (identical : Identical deltas) (deltaId : DeltaId) :
    after.applied.find? deltaId = none ↔
      inventory.applied.find? deltaId = none ∧ ∀ delta ∈ deltas, delta.deltaId ≠ deltaId := by
  have fresh : ∀ delta, delta ∈ freshDeltas inventory.applied deltas ↔
      delta ∈ deltas ∧ inventory.applied.find? delta.deltaId = none := by
    intro delta
    rw [← List.mem_toFinset,freshDeltas_toFinset identical,mem_unapplied]
  rw [Table.find?_eq_none_iff,Table.find?_eq_none_iff,applied.applied]
  constructor
  · intro absent
    have before : ∀ row ∈ inventory.applied.rows, row.deltaId ≠ deltaId :=
      fun row member => absent row (List.mem_append_left _ member)
    refine ⟨before,?_⟩
    rintro delta member rfl
    have unknown := (inventory.applied.find?_eq_none_iff delta.deltaId).mpr before
    exact absent (AppliedInventoryDelta.ofEvent delta)
      (List.mem_append_right _ (List.mem_map_of_mem ((fresh delta).mpr ⟨member,unknown⟩))) rfl
  · rintro ⟨before,others⟩ row member
    rcases List.mem_append.mp member with old | new
    · exact before row old
    · obtain ⟨delta,listed,rfl⟩ := List.mem_map.mp new
      exact others delta ((fresh delta).mp listed).1

/-- The unapplied deltas of a call and those of the later calls make up those of all. -/
theorem bucketSum_append {later : List InventoryDeltaEvent}
    (applied : Applied inventory after (freshDeltas inventory.applied deltas))
    (identical : Identical (deltas ++ later)) (bucket : Bucket) :
    bucketSum (unapplied inventory (deltas ++ later)) bucket =
      bucketSum (unapplied inventory deltas) bucket + bucketSum (unapplied after later) bucket := by
  have now : Identical deltas := identical.sublist fun delta => List.mem_append_left later
  have union : unapplied inventory (deltas ++ later) =
      unapplied inventory deltas ∪ unapplied after later := by
    ext delta
    rw [Finset.mem_union,mem_unapplied,mem_unapplied,mem_unapplied,applied.unknown_iff now,
      List.mem_append]
    constructor
    · rintro ⟨first | second,unknown⟩
      · exact .inl ⟨first,unknown⟩
      · by_cases listed : delta ∈ deltas
        · exact .inl ⟨listed,unknown⟩
        · refine .inr ⟨second,unknown,?_⟩
          intro other member same
          have equal := identical other (List.mem_append_left _ member) delta
            (List.mem_append_right _ second) same
          exact listed (equal ▸ member)
    · rintro (⟨first,unknown⟩ | ⟨second,unknown,-⟩)
      · exact ⟨.inl first,unknown⟩
      · exact ⟨.inr second,unknown⟩
  have disjoint : Disjoint (unapplied inventory deltas) (unapplied after later) := by
    rw [Finset.disjoint_left]
    intro delta first second
    rw [mem_unapplied] at first second
    exact ((applied.unknown_iff now _).mp second.2).2 delta first.1 rfl
  rw [union]
  exact Finset.sum_union disjoint

theorem DeltaCall.Succeeds.applied {call : DeltaCall} (succeeds : call.Succeeds inventory after) :
    Applied inventory after (freshDeltas inventory.applied call.deltas) := by
  obtain ⟨-,count,accepted⟩ := succeeds
  exact applyInventoryDeltas_spec accepted

end Once

section Runs

variable {inventory : Inventory} {calls : List DeltaCall}

theorem runCalls_quantity (identical : Identical (calls.flatMap DeltaCall.deltas))
    (bucket : Bucket) :
    (runCalls inventory calls).quantity bucket = inventory.quantity bucket +
      bucketSum (unapplied inventory (succeededDeltas inventory calls)) bucket := by
  induction calls generalizing inventory with
  | nil => simp [runCalls,succeededDeltas,unapplied,bucketSum]
  | cons call calls ih =>
      rw [List.flatMap_cons] at identical
      have later := identical.sublist fun delta => List.mem_append_right call.deltas
      rw [runCalls,ih later,succeededDeltas]
      cases outcome : call.result? inventory with
      | none => rfl
      | some after =>
          have applied := (DeltaCall.result?_eq_some.mp outcome).applied
          have both : Identical (call.deltas ++ succeededDeltas after calls) := by
            apply identical.sublist
            intro delta member
            rcases List.mem_append.mp member with now | rest
            · exact List.mem_append_left _ now
            · exact List.mem_append_right _ (succeededDeltas_subset after calls delta rest)
          have now : Identical call.deltas := both.sublist fun delta => List.mem_append_left _
          rw [Option.isSome_some,if_pos rfl,Option.getD_some,bucketSum_append applied both,
            applied.quantity_unapplied now,add_assoc]

/-- The applied table has the deltas of the calls that succeeded. -/
theorem runCalls_unknown_iff (identical : Identical (calls.flatMap DeltaCall.deltas))
    (deltaId : DeltaId) :
    (runCalls inventory calls).applied.find? deltaId = none ↔
      inventory.applied.find? deltaId = none ∧
        ∀ delta ∈ succeededDeltas inventory calls, delta.deltaId ≠ deltaId := by
  induction calls generalizing inventory with
  | nil => simp [runCalls,succeededDeltas]
  | cons call calls ih =>
      rw [List.flatMap_cons] at identical
      have later := identical.sublist fun delta => List.mem_append_right call.deltas
      have now : Identical call.deltas := identical.sublist fun delta => List.mem_append_left _
      rw [runCalls,ih later,succeededDeltas]
      cases outcome : call.result? inventory with
      | none => rfl
      | some after =>
          have applied := (DeltaCall.result?_eq_some.mp outcome).applied
          rw [Option.isSome_some,if_pos rfl,Option.getD_some,applied.unknown_iff now,
            List.forall_mem_append,and_assoc]

/-- Deltas that were applied are not applied again. -/
theorem quantity_of_again (identical : Identical (calls.flatMap DeltaCall.deltas))
    {again : DeltaCall} (repeated : ∀ delta ∈ again.deltas,
      delta ∈ succeededDeltas inventory calls ∨ inventory.applied.find? delta.deltaId ≠ none)
    (bucket : Bucket) :
    (runCalls inventory (calls ++ [again])).quantity bucket =
      (runCalls inventory calls).quantity bucket := by
  have known : ∀ delta ∈ again.deltas,
      ((runCalls inventory calls).applied.find? delta.deltaId).isSome := by
    intro delta member
    rw [Option.isSome_iff_ne_none,ne_eq,runCalls_unknown_iff identical]
    rintro ⟨unknown,others⟩
    rcases repeated delta member with succeeded | old
    · exact others delta succeeded rfl
    · exact old unknown
  rw [runCalls_append,runCalls,runCalls]
  cases outcome : again.result? (runCalls inventory calls) with
  | none => rfl
  | some after =>
      have applied := (DeltaCall.result?_eq_some.mp outcome).applied
      rw [freshDeltas_of_applied known] at applied
      rw [Option.getD_some,applied.quantity,deltaSum_nil,add_zero]

/-- Calls that all succeed come to quantities that only the set of their deltas decides. -/
theorem quantity_of_same_deltas (identical : Identical (calls.flatMap DeltaCall.deltas))
    {others : List DeltaCall}
    (same : ∀ delta, delta ∈ others.flatMap DeltaCall.deltas ↔ delta ∈ calls.flatMap DeltaCall.deltas)
    (all : AllSucceed inventory calls) (allOthers : AllSucceed inventory others) (bucket : Bucket) :
    (runCalls inventory others).quantity bucket = (runCalls inventory calls).quantity bucket := by
  have othersIdentical := identical.sublist fun delta => (same delta).mp
  have sets : unapplied inventory (others.flatMap DeltaCall.deltas) =
      unapplied inventory (calls.flatMap DeltaCall.deltas) := by
    ext delta
    rw [mem_unapplied,mem_unapplied,same]
  rw [runCalls_quantity identical,runCalls_quantity othersIdentical,succeededDeltas_of_all all,
    succeededDeltas_of_all allOthers,sets]

/-- Every delta counts exactly once, whatever calls it is repeated or split over. -/
theorem deltas_exactly_once (inventory : Inventory) (calls : List DeltaCall)
    (identical : Identical (calls.flatMap DeltaCall.deltas)) :
    (∀ bucket, (runCalls inventory calls).quantity bucket = inventory.quantity bucket +
      bucketSum (unapplied inventory (succeededDeltas inventory calls)) bucket) ∧
      (∀ again : DeltaCall, (∀ delta ∈ again.deltas,
          delta ∈ succeededDeltas inventory calls ∨ inventory.applied.find? delta.deltaId ≠ none) →
        ∀ bucket, (runCalls inventory (calls ++ [again])).quantity bucket =
          (runCalls inventory calls).quantity bucket) ∧
      ∀ others : List DeltaCall, (∀ delta, delta ∈ others.flatMap DeltaCall.deltas ↔
          delta ∈ calls.flatMap DeltaCall.deltas) →
        AllSucceed inventory calls → AllSucceed inventory others →
          ∀ bucket, (runCalls inventory others).quantity bucket =
            (runCalls inventory calls).quantity bucket :=
  ⟨runCalls_quantity identical,fun _ => quantity_of_again identical,
    fun _ => quantity_of_same_deltas identical⟩

end Runs

namespace Sample

theorem single_arrival : -1 ≤ (1 : ℤ) ∧ (1 : ℤ) ≤ 1 := by decide

theorem single_departure : -1 ≤ (-1 : ℤ) ∧ (-1 : ℤ) ≤ 1 := by decide

def unit (transitionId zoneId : Uuid) (quantityDelta : ℤ)
    (single : -1 ≤ quantityDelta ∧ quantityDelta ≤ 1) : InventoryDeltaEvent where
  deltaId := ⟨transitionId,skuId,zoneId⟩
  transitionId := transitionId
  storeId := storeId
  skuId := skuId
  zoneId := zoneId
  epc := tag
  quantityDelta := quantityDelta
  confidence := Confidence.clamp 1
  observedAt := 100
  unitDelta := single

/-- An item arrives in the back room, and moves to the floor in a batch that repeats a delta. -/
def arrivals : List InventoryDeltaEvent := [unit 90 backroomId 1 single_arrival]

def departures : List InventoryDeltaEvent :=
  [unit 91 backroomId (-1) single_departure,unit 91 floorId 1 single_arrival,
   unit 90 backroomId 1 single_arrival]

/-- The move fails before the arrival, and succeeds when it is called again. -/
def deltaCalls : List DeltaCall :=
  [{ registry, connectivity := Table.empty, deltas := departures.take 1 },
   { registry, connectivity := Table.empty, deltas := arrivals },
   { registry, connectivity := Table.empty, deltas := departures }]

theorem deltaCalls_identical : Identical (deltaCalls.flatMap DeltaCall.deltas) := by
  unfold Identical
  decide +kernel

theorem deltaCalls_succeeded : succeededDeltas emptyInventory deltaCalls = arrivals ++ departures := by
  decide +kernel

end Sample

theorem deltas_exactly_once_sample :
    Identical (Sample.deltaCalls.flatMap DeltaCall.deltas) ∧
      (runCalls Sample.emptyInventory Sample.deltaCalls).quantity Sample.floor =
        0 + bucketSum (unapplied Sample.emptyInventory (Sample.arrivals ++ Sample.departures))
          Sample.floor := by
  refine ⟨Sample.deltaCalls_identical,?_⟩
  rw [← Sample.deltaCalls_succeeded]
  exact (deltas_exactly_once Sample.emptyInventory Sample.deltaCalls
    Sample.deltaCalls_identical).1 Sample.floor

end Abacus

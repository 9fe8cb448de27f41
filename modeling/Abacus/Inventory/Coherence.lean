import Abacus.Library.Journal
import Abacus.Inventory.Projection

/-! The outbox as a journal of item moves.
Every transition row is a signed move of one item between buckets. The rows of an item
are chained and numbered from one, the item table is where the journal ends, and the
projection is the part of the journal that has been settled.
-/
set_option autoImplicit false

namespace Abacus

open Relational (Table)
open Journal (Move)

section Moves

def InventoryTransitionOutbox.events (transition : InventoryTransitionOutbox) :
    List InventoryDeltaEvent :=
  transition.deltas.filterMap DeltaPayload.event?

/-- The signed units that a transition brings to a bucket. -/
def InventoryTransitionOutbox.change (transition : InventoryTransitionOutbox) (bucket : Bucket) : ℤ :=
  deltaSum transition.events bucket

def InventoryTransitionOutbox.move (transition : InventoryTransitionOutbox) : Move Epc Bucket where
  item := transition.epc
  source := (transition.events.find? fun delta => delta.quantityDelta = -1).map
    InventoryDeltaEvent.bucket
  target := (transition.events.find? fun delta => delta.quantityDelta = 1).map
    InventoryDeltaEvent.bucket

def InventoryTransitionOutbox.isPublished (transition : InventoryTransitionOutbox) : Bool :=
  match transition.status with
  | .published _ => true
  | _ => false

def InventoryTransitionOutbox.isQuarantined (transition : InventoryTransitionOutbox) : Bool :=
  match transition.status with
  | .quarantined _ _ => true
  | _ => false

/-- Applied to the projection, or covered by a rebuild. -/
def InventoryTransitionOutbox.settled (transition : InventoryTransitionOutbox) : Bool :=
  match transition.status with
  | .published _ => true
  | .quarantined _ (some _) => true
  | _ => false

/-- A row whose deltas are exactly those of its move. -/
structure InventoryTransitionOutbox.WellFormed (transition : InventoryTransitionOutbox) : Prop where
  carries : ∃ confidence observedAt, transition.deltas =
    (moveDeltas transition.transitionId transition.epc transition.move.source
      transition.move.target confidence observedAt).map DeltaPayload.event
  distinct : (transition.events.map InventoryDeltaEvent.deltaId).Nodup
  nonempty : transition.deltas ≠ []

theorem events_of_map (deltas : List InventoryDeltaEvent) :
    (deltas.map DeltaPayload.event).filterMap DeltaPayload.event? = deltas := by
  induction deltas with
  | nil => rfl
  | cons delta deltas ih => simp [DeltaPayload.event?,ih]

theorem mapM_event (deltas : List InventoryDeltaEvent) :
    (deltas.map DeltaPayload.event).mapM DeltaPayload.event? = some deltas := by
  induction deltas with
  | nil => rfl
  | cons delta deltas ih => simp [DeltaPayload.event?,ih]

theorem mem_moveDeltas {transitionId : Uuid} {epc : Epc} {source target : Option Bucket}
    {confidence : Confidence} {observedAt : Time} {delta : InventoryDeltaEvent} :
    delta ∈ moveDeltas transitionId epc source target confidence observedAt ↔
      (∃ bucket ∈ source, delta =
        deltaPayload transitionId epc bucket (-1) (by decide) confidence observedAt) ∨
      (∃ bucket ∈ target, delta =
        deltaPayload transitionId epc bucket 1 (by decide) confidence observedAt) := by
  simp only [moveDeltas,List.mem_append,List.mem_map,Option.mem_toList]
  constructor
  · rintro (⟨bucket,member,rfl⟩ | ⟨bucket,member,rfl⟩)
    · exact .inl ⟨bucket,member,rfl⟩
    · exact .inr ⟨bucket,member,rfl⟩
  · rintro (⟨bucket,member,rfl⟩ | ⟨bucket,member,rfl⟩)
    · exact .inl ⟨bucket,member,rfl⟩
    · exact .inr ⟨bucket,member,rfl⟩

@[simp] theorem deltaPayload_bucket (transitionId : Uuid) (epc : Epc) (bucket : Bucket)
    (quantityDelta : ℤ) (unitDelta : -1 ≤ quantityDelta ∧ quantityDelta ≤ 1)
    (confidence : Confidence) (observedAt : Time) :
    (deltaPayload transitionId epc bucket quantityDelta unitDelta confidence observedAt).bucket =
      bucket := rfl

theorem moveDeltas_sum (transitionId : Uuid) (epc : Epc) (source target : Option Bucket)
    (confidence : Confidence) (observedAt : Time) (bucket : Bucket) :
    deltaSum (moveDeltas transitionId epc source target confidence observedAt) bucket =
      Journal.occupies target bucket - Journal.occupies source bucket := by
  cases source with
  | none =>
      cases target with
      | none => simp [moveDeltas,Journal.occupies]
      | some target =>
          simp only [moveDeltas,Journal.occupies,Option.toList_some,Option.toList_none,List.map_cons,
            List.map_nil,List.nil_append,deltaSum_cons,deltaSum_nil,deltaPayload_bucket]
          by_cases same : target = bucket <;> simp [same,deltaPayload]
  | some source =>
      cases target with
      | none =>
          simp only [moveDeltas,Journal.occupies,Option.toList_some,Option.toList_none,List.map_cons,
            List.map_nil,List.append_nil,deltaSum_cons,deltaSum_nil,deltaPayload_bucket]
          by_cases same : source = bucket <;> simp [same,deltaPayload]
      | some target =>
          simp only [moveDeltas,Journal.occupies,Option.toList_some,List.map_cons,List.map_nil,
            deltaSum_append,deltaSum_cons,deltaSum_nil,deltaPayload_bucket]
          by_cases left : source = bucket <;> by_cases right : target = bucket <;>
            simp [left,right,deltaPayload]

/-- The move read back from the deltas of a move. -/
theorem move_of_deltas {transition : InventoryTransitionOutbox} {source target : Option Bucket}
    {confidence : Confidence} {observedAt : Time}
    (deltas : transition.deltas = (moveDeltas transition.transitionId transition.epc source target
      confidence observedAt).map DeltaPayload.event) :
    transition.move = ⟨transition.epc,source,target⟩ := by
  have events : transition.events = moveDeltas transition.transitionId transition.epc source target
      confidence observedAt := by
    rw [InventoryTransitionOutbox.events,deltas,events_of_map]
  cases source <;> cases target <;>
    simp [InventoryTransitionOutbox.move,events,moveDeltas,deltaPayload,InventoryDeltaEvent.bucket]

namespace InventoryTransitionOutbox.WellFormed

variable {transition : InventoryTransitionOutbox}

theorem events_eq (wellFormed : transition.WellFormed) :
    ∃ confidence observedAt, transition.events =
      moveDeltas transition.transitionId transition.epc transition.move.source
        transition.move.target confidence observedAt := by
  obtain ⟨confidence,observedAt,deltas⟩ := wellFormed.carries
  refine ⟨confidence,observedAt,?_⟩
  unfold InventoryTransitionOutbox.events
  rw [deltas,events_of_map]

theorem change_eq (wellFormed : transition.WellFormed) (bucket : Bucket) :
    transition.change bucket = transition.move.net bucket := by
  obtain ⟨confidence,observedAt,events⟩ := wellFormed.events_eq
  rw [InventoryTransitionOutbox.change,events,moveDeltas_sum]
  rfl

theorem event_ids (wellFormed : transition.WellFormed) {delta : InventoryDeltaEvent}
    (member : delta ∈ transition.events) :
    delta.deltaId.transitionId = transition.transitionId ∧
      delta.transitionId = transition.transitionId ∧ delta.epc = transition.epc := by
  obtain ⟨confidence,observedAt,events⟩ := wellFormed.events_eq
  rw [events,mem_moveDeltas] at member
  rcases member with ⟨bucket,-,rfl⟩ | ⟨bucket,-,rfl⟩
  · exact ⟨rfl,rfl,rfl⟩
  · exact ⟨rfl,rfl,rfl⟩

theorem validated (wellFormed : transition.WellFormed) :
    validatedTransitionDeltas transition = .ok transition.events := by
  obtain ⟨confidence,observedAt,deltas⟩ := wellFormed.carries
  have parsed : transition.deltas.mapM DeltaPayload.event? = some transition.events := by
    unfold InventoryTransitionOutbox.events
    rw [deltas,mapM_event,events_of_map]
  unfold validatedTransitionDeltas
  rw [if_neg (by simpa using wellFormed.nonempty),parsed]
  simp only
  rw [if_neg,if_neg,if_neg (not_not.mpr wellFormed.distinct)]
  · simp only [List.any_eq_true,decide_eq_true_eq,not_exists,not_and,not_not]
    intro delta member
    exact (wellFormed.event_ids member).2.2
  · simp only [List.any_eq_true,decide_eq_true_eq,not_exists,not_and,not_not]
    intro delta member
    exact (wellFormed.event_ids member).2.1

end InventoryTransitionOutbox.WellFormed

end Moves

section History

def Inventory.moves (inventory : Inventory) : List (Move Epc Bucket) :=
  inventory.transitions.rows.map InventoryTransitionOutbox.move

def Inventory.place (inventory : Inventory) (epc : Epc) : Option Bucket :=
  (inventory.items.find? epc).bind CurrentItemState.bucket?

def Inventory.version (inventory : Inventory) (epc : Epc) : ℕ :=
  (inventory.items.find? epc).elim 0 CurrentItemState.stateVersion

def Inventory.rowsOf (inventory : Inventory) (epc : Epc) : List InventoryTransitionOutbox :=
  inventory.transitions.select fun transition => decide (transition.epc = epc)

/-- The item table is where the outbox rows lead, one version at a time. -/
structure Inventory.Journaled (registry : Registry) (inventory : Inventory) : Prop where
  chained : Journal.Chained (fun _ => none) inventory.moves
  placed : Journal.after (fun _ => none) inventory.moves = inventory.place
  numbered : ∀ epc, (inventory.rowsOf epc).map InventoryTransitionOutbox.stateVersion =
    List.range' 1 (inventory.version epc)
  wellFormed : ∀ transition ∈ inventory.transitions.rows, transition.WellFormed
  zoned : ∀ state ∈ inventory.items.rows, ∀ location ∈ state.location,
    registry.hasZone location = true

theorem Inventory.place_put (inventory : Inventory) (state : CurrentItemState) (epc : Epc) :
    ({ inventory with items := inventory.items.put state } : Inventory).place epc =
      if state.epc = epc then state.bucket? else inventory.place epc := by
  unfold place
  simp only [Table.find?_put]
  split <;> rfl

theorem Inventory.version_put (inventory : Inventory) (state : CurrentItemState) (epc : Epc) :
    ({ inventory with items := inventory.items.put state } : Inventory).version epc =
      if state.epc = epc then state.stateVersion else inventory.version epc := by
  unfold version
  simp only [Table.find?_put]
  split <;> rfl

structure Recorded (registry : Registry) (inventory after : Inventory) (next : CurrentItemState)
    (row : InventoryTransitionOutbox) : Prop where
  zoned : ∀ location ∈ next.location, registry.hasZone location = true
  inserted : inventory.transitions.insert row = some after.transitions
  items : after.items = inventory.items.put next
  projections : after.projections = inventory.projections
  applied : after.applied = inventory.applied
  businessEvents : after.businessEvents = inventory.businessEvents

theorem recordTransition_spec {registry : Registry} {inventory after : Inventory}
    {next : CurrentItemState} {transitionId : Uuid} {deltas : List InventoryDeltaEvent}
    {createdAt : Time}
    (recorded : recordTransition registry inventory next transitionId deltas createdAt = .ok after) :
    Recorded registry inventory after next
      { transitionId, epc := next.epc, stateVersion := next.stateVersion,
        deltas := deltas.map DeltaPayload.event, createdAt } := by
  unfold recordTransition at recorded
  split at recorded
  · cases recorded
  · rename_i zoned
    split at recorded
    · cases recorded
    · obtain ⟨transitions,inserted,result⟩ := bind_eq_ok.mp recorded
      cases result
      refine ⟨?_,orIntegrityError_eq_ok.mp inserted,rfl,rfl,rfl,rfl⟩
      intro location member
      rw [Option.mem_def] at member
      simpa [member] using zoned

private theorem moved_ids_distinct {registry : Registry} {transitionId : Uuid} {epc : Epc}
    {source target : Option Bucket} {confidence : Confidence} {observedAt : Time}
    (sourceZoned : ∀ bucket ∈ source, registry.hasZone ⟨bucket.storeId,bucket.zoneId⟩ = true)
    (targetZoned : ∀ bucket ∈ target, registry.hasZone ⟨bucket.storeId,bucket.zoneId⟩ = true)
    (apart : source ≠ target) :
    ((moveDeltas transitionId epc source target confidence observedAt).map
      InventoryDeltaEvent.deltaId).Nodup := by
  cases source with
  | none => cases target <;> simp [moveDeltas]
  | some source =>
      cases target with
      | none => simp [moveDeltas]
      | some target =>
          have differ : ¬(source.skuId = target.skuId ∧ source.zoneId = target.zoneId) := by
            rintro ⟨sku,zone⟩
            have store := Registry.store_of_hasZone (sourceZoned source rfl) (targetZoned target rfl)
              zone
            apply apart
            have equal : source.storeId = target.storeId := congrArg Location.storeId store
            cases source; cases target
            simp_all
          simpa [moveDeltas,deltaPayload] using differ

variable {registry : Registry} {inventory after : Inventory}

theorem Inventory.Journaled.place_zoned (journaled : inventory.Journaled registry) {epc : Epc}
    {bucket : Bucket} (placed : inventory.place epc = some bucket) :
    registry.hasZone ⟨bucket.storeId,bucket.zoneId⟩ = true := by
  obtain ⟨state,found,located⟩ := Option.bind_eq_some_iff.mp placed
  obtain ⟨location,here,rfl⟩ := Option.map_eq_some_iff.mp located
  exact journaled.zoned state (Table.mem_of_find? found) location here

/-- A recorded move from where the item is to somewhere else keeps the journal. -/
theorem Inventory.Journaled.record (journaled : inventory.Journaled registry)
    {next : CurrentItemState} {transitionId : Uuid} {confidence : Confidence}
    {observedAt createdAt : Time}
    (recorded : recordTransition registry inventory next transitionId
      (moveDeltas transitionId next.epc (inventory.place next.epc) next.bucket? confidence observedAt)
      createdAt = .ok after)
    (version : next.stateVersion = inventory.version next.epc + 1)
    (moved : inventory.place next.epc ≠ next.bucket?) : after.Journaled registry := by
  have spec := recordTransition_spec recorded
  set row : InventoryTransitionOutbox :=
    { transitionId, epc := next.epc, stateVersion := next.stateVersion,
      deltas := (moveDeltas transitionId next.epc (inventory.place next.epc) next.bucket? confidence
        observedAt).map DeltaPayload.event, createdAt } with rowDef
  have rows : after.transitions.rows = inventory.transitions.rows ++ [row] :=
    (Table.insert_eq_some spec.inserted).2
  have move : row.move = ⟨next.epc,inventory.place next.epc,next.bucket?⟩ :=
    by
    exact move_of_deltas (by rw [rowDef])
  have moves : after.moves = inventory.moves ++ [row.move] := by
    simp [Inventory.moves,rows]
  have place : after.place = Function.update inventory.place next.epc next.bucket? := by
    funext epc
    have put := inventory.place_put next epc
    unfold Inventory.place at put ⊢
    rw [spec.items,put]
    by_cases same : next.epc = epc
    · subst same; simp
    · simp [same,Function.update_of_ne (Ne.symm same)]
  refine ⟨?_,?_,?_,?_,?_⟩
  · rw [moves]
    apply Journal.chained_snoc journaled.chained
    rw [journaled.placed,move]
  · rw [moves,Journal.after_snoc,journaled.placed,place,move]
  · intro epc
    have put := inventory.version_put next epc
    have versions : after.version epc =
        if next.epc = epc then next.stateVersion else inventory.version epc := by
      unfold Inventory.version at put ⊢
      rw [spec.items,put]
    have numbered := journaled.numbered epc
    simp only [Inventory.rowsOf,Table.select,rows,List.filter_append,List.map_append] at numbered ⊢
    rw [numbered,versions]
    by_cases same : next.epc = epc
    · subst same
      rw [if_pos rfl,version,List.range'_1_concat]
      simp [rowDef,version,Nat.add_comm]
    · simp [rowDef,same]
  · intro transition member
    rw [rows,List.mem_append,List.mem_singleton] at member
    rcases member with earlier | rfl
    · exact journaled.wellFormed transition earlier
    · refine ⟨⟨confidence,observedAt,by rw [move]⟩,?_,?_⟩
      · have events : row.events = moveDeltas transitionId next.epc (inventory.place next.epc)
            next.bucket? confidence observedAt := events_of_map _
        rw [events]
        refine moved_ids_distinct (fun bucket placed => journaled.place_zoned placed) ?_ moved
        intro bucket target
        obtain ⟨location,here,rfl⟩ := Option.map_eq_some_iff.mp target
        exact spec.zoned location here
      · intro empty
        apply moved
        have none_moved : moveDeltas transitionId next.epc (inventory.place next.epc) next.bucket?
            confidence observedAt = [] := by simpa [rowDef] using empty
        cases source : inventory.place next.epc <;> cases target : next.bucket? <;>
          simp [source,target,moveDeltas] at none_moved ⊢
  · intro state member
    rw [spec.items,Table.mem_put] at member
    rcases member with rfl | ⟨stored,-⟩
    · exact spec.zoned
    · exact journaled.zoned state stored

/-- A refreshed item row that keeps its SKU, location and version keeps the journal. -/
theorem Inventory.Journaled.refresh (journaled : inventory.Journaled registry)
    {old new : CurrentItemState} (found : inventory.items.find? old.epc = some old)
    (epc : new.epc = old.epc) (sku : new.skuId = old.skuId) (location : new.location = old.location)
    (version : new.stateVersion = old.stateVersion) :
    ({ inventory with items := inventory.items.put new } : Inventory).Journaled registry := by
  have bucket : new.bucket? = old.bucket? := by simp [CurrentItemState.bucket?,sku,location]
  have place : ({ inventory with items := inventory.items.put new } : Inventory).place =
      inventory.place := by
    funext other
    rw [Inventory.place_put]
    split
    · rename_i same
      rw [← same,epc,bucket]
      simp [Inventory.place,found]
    · rfl
  refine ⟨journaled.chained,?_,?_,journaled.wellFormed,?_⟩
  · rw [place]
    exact journaled.placed
  · intro other
    have same : ({ inventory with items := inventory.items.put new } : Inventory).version other =
        inventory.version other := by
      rw [Inventory.version_put]
      split
      · rename_i same
        rw [← same,epc,version]
        simp [Inventory.version,found]
      · rfl
    rw [same]
    exact journaled.numbered other
  · intro state member
    rcases Table.mem_put.mp member with rfl | ⟨stored,-⟩
    · rw [location]
      exact journaled.zoned old (Table.mem_of_find? found)
    · exact journaled.zoned state stored

structure Restamps (f : InventoryTransitionOutbox → InventoryTransitionOutbox) : Prop where
  key : ∀ row, (f row).transitionId = row.transitionId
  epc : ∀ row, (f row).epc = row.epc
  version : ∀ row, (f row).stateVersion = row.stateVersion
  deltas : ∀ row, (f row).deltas = row.deltas

/-- A change of transition rows that leaves their moves and versions alone keeps the journal. -/
theorem Inventory.Journaled.restamp (journaled : inventory.Journaled registry)
    (p : InventoryTransitionOutbox → Bool)
    {f : InventoryTransitionOutbox → InventoryTransitionOutbox} (restamps : Restamps f)
    (transitions : after.transitions = inventory.transitions.updateWhere p f restamps.key)
    (items : after.items = inventory.items) : after.Journaled registry := by
  obtain ⟨keeps,epc,version,deltas⟩ := restamps
  have move : ∀ row, (if p row then f row else row).move = row.move := by
    intro row
    split
    · simp [InventoryTransitionOutbox.move,InventoryTransitionOutbox.events,epc,deltas]
    · rfl
  have moves : after.moves = inventory.moves := by
    simp only [Inventory.moves,transitions,Table.updateWhere,List.map_map]
    apply List.map_congr_left
    intro row _
    exact move row
  have place : after.place = inventory.place := by funext other; simp [Inventory.place,items]
  refine ⟨?_,?_,?_,?_,?_⟩
  · rw [moves]; exact journaled.chained
  · rw [moves,place]; exact journaled.placed
  · intro other
    have versions : after.version other = inventory.version other := by
      simp [Inventory.version,items]
    rw [versions,← journaled.numbered other]
    simp only [Inventory.rowsOf,transitions,Table.select,Table.updateWhere,List.filter_map,List.map_map]
    have sameEpc : ∀ row : InventoryTransitionOutbox,
        (if p row then f row else row).epc = row.epc := by
      intro row
      split <;> simp [epc]
    have sameRows : (inventory.transitions.rows.filter
        ((fun row => decide (row.epc = other)) ∘ fun row => if p row then f row else row)) =
        inventory.transitions.rows.filter fun row => decide (row.epc = other) := by
      apply List.filter_congr
      intro row _
      simp [sameEpc]
    rw [sameRows]
    apply List.map_congr_left
    intro row _
    simp only [Function.comp_apply]
    split <;> simp [version]
  · intro row member
    rw [transitions] at member
    obtain ⟨old,stored,rfl⟩ := Table.mem_updateWhere.mp member
    have wellFormed := journaled.wellFormed old stored
    split
    · rename_i chosen
      have sameEvents : (f old).events = old.events := by
        simp [InventoryTransitionOutbox.events,deltas]
      have sameMove : (f old).move = old.move := by simpa [chosen] using move old
      refine ⟨?_,by rw [sameEvents]; exact wellFormed.distinct,by rw [deltas]; exact wellFormed.nonempty⟩
      rw [deltas,keeps,epc,sameMove]
      exact wellFormed.carries
    · exact wellFormed
  · rw [items]; exact journaled.zoned

end History

end Abacus

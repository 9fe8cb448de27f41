import Abacus.Model.EventWorker

/-! `rebuild_inventory_projection` statement by statement. Under READ COMMITTED every statement sees
what had been committed when it began, and nothing the rebuild writes is seen before it commits.
-/
set_option autoImplicit false

namespace Abacus

open Relational (Table)

/-- What the transaction has behind it. `snapshot` is the committed inventory that the item query
saw; the rebuild itself uses only its items. -/
inductive RebuildPhase where
  | idle
  | locked
  | counted
  | deleted
  | adding (snapshot : Inventory) (remaining : List (Bucket × List (Bucket × CurrentItemState)))
      (rows : List InventoryProjection) (loaded : Option StoreConnectivity)
  | recounted (snapshot : Inventory) (rows : List InventoryProjection)
  | reconciled (snapshot : Inventory) (rows : List InventoryProjection) (transitionIds : List Uuid)
      (reconciledAt : Time)
  | cleared (snapshot : Inventory) (rows : List InventoryProjection) (transitionIds : List Uuid)
      (reconciledAt : Time) (storeIds : List Uuid)

inductive RebuildStatement where
  | lock | countBefore | delete | query | add | countAfter
  | reconcile (reconciledAt : Time)
  | clear | abort
deriving DecidableEq, Repr

/-- `db.get(StoreConnectivity, ...)`: the session still holds the row it returned last. -/
def loadConnectivity (connectivity : Connectivity) (loaded : Option StoreConnectivity)
    (storeId : Uuid) : Option StoreConnectivity :=
  match loaded.filter fun row => decide (row.storeId = storeId) with
  | some row => some row
  | none => connectivity.find? storeId

def addedRow (bucket : Bucket) (group : List (Bucket × CurrentItemState))
    (loaded : Option StoreConnectivity) : InventoryProjection where
  storeId := bucket.storeId
  skuId := bucket.skuId
  zoneId := bucket.zoneId
  quantity := group.length
  asOf := (group.map fun entry => entry.2.lastObservedAt).max?.getD 0
  confidence := (group.map fun entry => entry.2.confidence).min?.getD (Confidence.clamp 0)
  freshnessStatus := loaded.elim .stale StoreConnectivity.freshnessStatus

/-- A statement in the phase it belongs to. A count of pending rows that is not zero raises, and the
transaction rolls back. -/
def RebuildPhase.next (phase : RebuildPhase) (inventory : Inventory) (connectivity : Connectivity) :
    RebuildStatement → Option RebuildPhase
  | .abort => some .idle
  | .lock => match phase with
      | .idle => some .locked
      | _ => none
  | .countBefore => match phase with
      | .locked => some (if pendingCount inventory ≠ 0 then .idle else .counted)
      | _ => none
  | .delete => match phase with
      | .counted => some .deleted
      | _ => none
  | .query => match phase with
      | .deleted => some (.adding inventory (locatedGroups inventory.items).rows [] none)
      | _ => none
  | .add => match phase with
      | .adding snapshot ((bucket,group) :: remaining) rows loaded =>
          let loaded := loadConnectivity connectivity loaded bucket.storeId
          some (.adding snapshot remaining (rows ++ [addedRow bucket group loaded]) loaded)
      | _ => none
  | .countAfter => match phase with
      | .adding snapshot [] rows _ =>
          some (if pendingCount inventory ≠ 0 then .idle else .recounted snapshot rows)
      | _ => none
  | .reconcile reconciledAt => match phase with
      | .recounted snapshot rows =>
          some (.reconciled snapshot rows ((inventory.transitions.select
            InventoryTransitionOutbox.unreconciled).map InventoryTransitionOutbox.transitionId)
            reconciledAt)
      | _ => none
  | .clear => match phase with
      | .reconciled snapshot rows transitionIds reconciledAt =>
          some (.cleared snapshot rows transitionIds reconciledAt
            (connectivity.rows.map StoreConnectivity.storeId))
      | _ => none

/-- The update of `reconciled_at`, for the rows that its statement found. -/
def reconcileTransitions (transitions : Table InventoryTransitionOutbox.transitionId)
    (chosen : InventoryTransitionOutbox → Bool) (reconciledAt : Time) :
    Table InventoryTransitionOutbox.transitionId :=
  transitions.updateWhere chosen (fun transition => transition.reconcile reconciledAt)
    (fun transition => transition.reconcile_transitionId reconciledAt)

theorem StoreConnectivity.reconciled_storeId (row : StoreConnectivity) :
    ({ row with inventoryReconciliationRequiredAt := none } : StoreConnectivity).storeId =
      row.storeId := rfl

def commitRebuild (inventory : Inventory) (connectivity : Connectivity)
    (rows : List InventoryProjection) (transitionIds : List Uuid) (reconciledAt : Time)
    (storeIds : List Uuid) : Attempt (Inventory × Connectivity) := do
  let projections ← orIntegrityError "pk_inventory_projection"
    ((inventory.projections.deleteWhere fun _ => true).insertMany rows)
  return (
    { inventory with
      projections
      transitions := reconcileTransitions inventory.transitions
        (fun transition => decide (transition.transitionId ∈ transitionIds)) reconciledAt },
    connectivity.updateWhere (fun row => decide (row.storeId ∈ storeIds))
      (fun row => { row with inventoryReconciliationRequiredAt := none })
      StoreConnectivity.reconciled_storeId)

end Abacus

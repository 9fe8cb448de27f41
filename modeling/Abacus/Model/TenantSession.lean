import Mathlib.Data.List.Dedup
import Abacus.Library.Json
import Abacus.Library.Machine
import Abacus.Library.ThreeValued
import Abacus.Model.Basic

/-! Sessions that are pinned to a tenant and to stores, and the row policies of the database
(`db.py`, and the migrations that enforce tenant and store scope).
A setting that a transaction makes is gone at its end, but the connection then has it as the empty
text and no longer as null.
-/
set_option autoImplicit false

namespace Abacus.Isolation

open Python (Text text)
open Transition (Machine)

structure UuidText where
  str : Uuid → Text
  parse : Text → Option Uuid

section Policies

inductive TableName where
  | tenants | organizationUnits | stores | zones | devices | deviceAssignments | onboardingBatches
  | users | userAccessGrants | userRoles | userStoreAssignments | authSessions
  | identityAuditRecords | durableJobs | productStyles | skus | products | productVariants
  | epcBindings | rfidTags | catalogImports | catalogImportSources | catalogImportRows
  | catalogImportErrors | rfidObservationBatches | rfidObservationEvents
  | rfidObservationBatchEvents | rfidObservationOutbox | rfidQuarantine | currentItemState
  | inventoryTransitionOutbox | businessEvents | inventoryProjection | appliedInventoryDeltas
  | storeConnectivity | replenishmentPolicies | replenishmentPolicyVersions
  | replenishmentPolicyRules | replenishmentTasks | replenishmentTaskEvidence
deriving DecidableEq, Repr

/-- The restrictive policy of a table, beside the permissive one of its tenant. -/
inductive StorePolicy where
  | none
  | direct (allowShared : Bool)
  | devices
  | evidence
deriving DecidableEq, Repr

/-- `DIRECT_STORE_TABLES` and `INDIRECT_STORE_TABLES`. -/
def TableName.storePolicy : TableName → StorePolicy
  | .stores | .zones | .deviceAssignments | .rfidObservationBatches | .rfidObservationEvents
  | .currentItemState | .inventoryProjection | .appliedInventoryDeltas | .storeConnectivity
  | .replenishmentTasks | .businessEvents => .direct false
  | .replenishmentPolicyRules => .direct true
  | .devices => .devices
  | .replenishmentTaskEvidence => .evidence
  | _ => .none

structure Row where
  table : TableName
  id : Uuid
  tenantId : Uuid
  storeId : Option Uuid := none
  deviceId : Option Uuid := none
  taskId : Option Uuid := none
deriving DecidableEq, Repr

/-- The tenant column: the registry of tenants has its own key there. -/
def Row.tenantColumn (row : Row) : Uuid := if row.table = .tenants then row.id else row.tenantId

def Row.storeColumn (row : Row) : Option Uuid :=
  if row.table = .stores then some row.id else row.storeId

/-- `current_setting(…, true)` of `app.tenant_id` and `app.store_scope`. -/
structure Context where
  tenantId : Option Text := none
  storeScope : Option Text := none
deriving DecidableEq

inductive Role where
  | application
  | migrationOwner
deriving DecidableEq, Repr

def tenantWide : Text := text "*"

/-- `string_to_array(…, ',')`. -/
def stringToArray (value : Text) : List Text := if value = [] then [] else value.splitOn 44

variable (uuids : UuidText) (role : Role) (context : Context) (rows : List Row)

def isOwner : Sql.Condition := some (role = .migrationOwner)

/-- `TENANT_CONTEXT_SQL`. -/
def tenantContext : Option Uuid := (Sql.nullIf context.tenantId []).bind uuids.parse

/-- The permissive policies: `tenant_isolation`, and `migration_owner_access` for the owner. -/
def tenantPredicate (row : Row) : Sql.Condition :=
  Sql.or (Sql.eq (some row.tenantColumn) (tenantContext uuids context)) (isOwner role)

/-- `_scope_match`. -/
def scopeMatch (column : Option Uuid) : Sql.Condition :=
  Sql.or (Sql.eq context.storeScope (some tenantWide))
    (Sql.eqAny (column.map uuids.str) (context.storeScope.map stringToArray))

/-- `_direct_predicate`. -/
def directPredicate (allowShared : Bool) (column : Option Uuid) : Sql.Condition :=
  let scope := scopeMatch uuids context column
  Sql.or (isOwner role)
    (if allowShared then
      Sql.and (some (Sql.nullIf context.storeScope []).isSome) (Sql.or (some column.isNone) scope)
    else scope)

def visibleDirect (row : Row) : Bool :=
  tenantPredicate uuids role context row = some true ∧
    directPredicate uuids role context false row.storeColumn = some true

/-- `_devices_predicate`. -/
def devicesPredicate (device : Row) : Sql.Condition :=
  Sql.or (isOwner role) (Sql.or (Sql.eq context.storeScope (some tenantWide))
    (some (rows.any fun assignment => assignment.table = .deviceAssignments ∧
      visibleDirect uuids role context assignment ∧
      assignment.tenantId = device.tenantId ∧ assignment.deviceId = some device.id ∧
      scopeMatch uuids context assignment.storeId = some true)))

/-- `_evidence_predicate`. -/
def evidencePredicate (evidence : Row) : Sql.Condition :=
  Sql.or (isOwner role) (Sql.or (Sql.eq context.storeScope (some tenantWide))
    (some (rows.any fun task => task.table = .replenishmentTasks ∧
      visibleDirect uuids role context task ∧
      task.tenantId = evidence.tenantId ∧ some task.id = evidence.taskId ∧
      scopeMatch uuids context task.storeId = some true)))

def storePredicate (row : Row) : Sql.Condition :=
  match row.table.storePolicy with
  | .none => some true
  | .direct allowShared => directPredicate uuids role context allowShared row.storeColumn
  | .devices => devicesPredicate uuids role context rows row
  | .evidence => evidencePredicate uuids role context rows row

/-- `USING` and `WITH CHECK`, which are the same: of the permissive policies one has to be true,
and so has the restrictive one. -/
def permitted (row : Row) : Bool :=
  Sql.and (tenantPredicate uuids role context row)
    (storePredicate uuids role context rows row) = some true

inductive Write where
  | insert (row : Row)
  | update (old new : Row)
  | delete (row : Row)
deriving DecidableEq, Repr

/-- A statement fails on a row that it may not write. -/
def Write.permitted : Write → Bool
  | insert row => Isolation.permitted uuids role context rows row
  | update old new => Isolation.permitted uuids role context rows old ∧
      Isolation.permitted uuids role context rows new
  | delete row => Isolation.permitted uuids role context rows row

end Policies

section Sessions

/-- `session.info`. -/
structure SessionInfo where
  tenantId : Option Uuid := none
  storeScope : Option Text := none
deriving DecidableEq

/-- A transaction takes a connection at its first statement. -/
inductive SessionTransaction where
  | none
  | begun
  | connected (base current : Context)
deriving DecidableEq

structure TenantSession where
  info : SessionInfo := {}
  transaction : SessionTransaction := .none
deriving DecidableEq

namespace TenantSession

variable (uuids : UuidText) (session : TenantSession)

def inTransaction : Bool := session.transaction ≠ .none

/-- `_apply_transaction_tenant_context`. -/
def applyTransactionTenantContext (context : Context) : Context :=
  match session.info.tenantId with
  | none => context
  | some tenantId =>
      let pinned := { context with tenantId := some (uuids.str tenantId) }
      match session.info.storeScope with
      | none => pinned
      | some storeScope => { pinned with storeScope := some storeScope }

def connect (connection : Context) : TenantSession :=
  { session with
    transaction := .connected connection (session.applyTransactionTenantContext uuids connection) }

/-- `pin_session_to_tenant`, which raises where this is `none`. -/
def pinSessionToTenant (tenantId : Uuid) : Option TenantSession :=
  match session.info.tenantId with
  | some existingTenantId => if existingTenantId ≠ tenantId then none else some session
  | none =>
      if session.inTransaction then none
      else some { session with info := { session.info with tenantId := some tenantId } }

/-- The scope that `pin_session_to_store_scope` binds. -/
def scopeText (storeIds : List Uuid) (wide : Bool) : Text :=
  if wide then tenantWide
  else [44].intercalate ((storeIds.dedup.insertionSort fun left right =>
    uuids.str left ≤ uuids.str right).map uuids.str)

/-- `set_config('app.store_scope', …, true)`. -/
def setStoreScope (scope : Text) (context : Context) : Context :=
  { context with storeScope := some scope }

/-- `pin_session_to_store_scope`. In a transaction it makes the setting at once, and so takes a
connection if there is none yet. -/
def pinSessionToStoreScope (storeIds : List Uuid) (wide : Bool) (connection : Context) :
    Option TenantSession :=
  let scope := scopeText uuids storeIds wide
  if session.info.tenantId = none then none
  else if session.info.storeScope ≠ none ∧ session.info.storeScope ≠ some scope then none
  else
    let pinned := { session with info := { session.info with storeScope := some scope } }
    match session.transaction with
    | .none => some pinned
    | .begun => some (pinned.connect uuids connection)
    | .connected base current =>
        some { pinned with transaction := .connected base (setStoreScope scope current) }

end TenantSession

/-- A setting after a transaction: the value that the connection had, or the empty text. -/
def Context.release (base current : Context) : Context where
  tenantId := if current.tenantId = base.tenantId then base.tenantId else some (base.tenantId.getD [])
  storeScope :=
    if current.storeScope = base.storeScope then base.storeScope else some (base.storeScope.getD [])

structure Process where
  sessions : List TenantSession := []
  idle : List Context := []
deriving DecidableEq

inductive SessionEvent where
  | openSession
  | pinSessionToTenant (session : ℕ) (tenantId : Uuid)
  | pinSessionToStoreScope (session : ℕ) (storeIds : List Uuid) (wide : Bool) (connection : Option ℕ)
  | begin (session : ℕ)
  | connect (session : ℕ) (connection : Option ℕ)
  | finish (session : ℕ) (kept : Bool)

namespace Process

variable (uuids : UuidText) (process : Process)

def connection (choice : Option ℕ) : Context :=
  (choice.bind fun index => process.idle[index]?).getD {}

def withoutConnection (choice : Option ℕ) : List Context :=
  match choice with
  | none => process.idle
  | some index => process.idle.eraseIdx index

def setSession (index : ℕ) (session : TenantSession) : Process :=
  { process with sessions := process.sessions.set index session }

def next (event : SessionEvent) : Process :=
  match event with
  | .openSession => { process with sessions := process.sessions ++ [{}] }
  | .pinSessionToTenant index tenantId =>
      match process.sessions[index]?.bind fun session => session.pinSessionToTenant tenantId with
      | some session => process.setSession index session
      | none => process
  | .pinSessionToStoreScope index storeIds wide choice =>
      match process.sessions[index]? with
      | none => process
      | some session =>
          match session.pinSessionToStoreScope uuids storeIds wide (process.connection choice) with
          | none => process
          | some pinned =>
              let taken := if session.transaction = .begun then process.withoutConnection choice
                else process.idle
              { process.setSession index pinned with idle := taken }
  | .begin index =>
      match process.sessions[index]? with
      | some ⟨info,.none⟩ => process.setSession index ⟨info,.begun⟩
      | _ => process
  | .connect index choice =>
      match process.sessions[index]? with
      | none => process
      | some session =>
          match session.transaction with
          | .connected _ _ => process
          | _ =>
              { process.setSession index (session.connect uuids (process.connection choice)) with
                idle := process.withoutConnection choice }
  | .finish index kept =>
      match process.sessions[index]? with
      | some ⟨info,.connected base current⟩ =>
          { process.setSession index ⟨info,.none⟩ with
            idle := if kept then process.idle ++ [base.release current] else process.idle }
      | some ⟨info,.begun⟩ => process.setSession index ⟨info,.none⟩
      | _ => process

end Process

def sessionMachine (uuids : UuidText) : Machine Process SessionEvent where
  initial process := process = {}
  next process event := some (process.next uuids event)

end Sessions

end Abacus.Isolation

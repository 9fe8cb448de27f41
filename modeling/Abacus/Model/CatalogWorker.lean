import Abacus.Library.Machine
import Abacus.Model.CatalogStaging
import Abacus.Model.Jobs

/-! The catalog worker (`processes/catalog_worker.py`) and the imports that it processes
(`services/catalog.py`).
An event is a statement of a worker, with the statements after it that nobody else can come
between: a row that was selected for update is locked until the transaction ends, and who needs it
waits. A statement that raises is the event `raise`, and a worker may stall or crash before any.
-/
set_option autoImplicit false

namespace Abacus.Catalog

open Relational (Table)
open Python (Text text Json JsonObject)
open Transition (Machine)

/-- The texts of identifiers, and what `uuid.UUID` makes of a text. -/
structure Identifiers where
  str : Uuid → Text
  parse : Text → Option Uuid
  parse_str : ∀ id, parse (str id) = some id

structure Deployment where
  runtime : Runtime
  identifiers : Identifiers
  settings : Settings
  tenantId : Uuid

abbrev Imports := Table CatalogImport.id

section Payloads

variable (deployment : Deployment)

/-- `{"import_id": str(catalog_import.id)}`. -/
def importPayload (importId : Uuid) : JsonObject :=
  [(text "import_id",jsonText (deployment.identifiers.str importId))]

/-- `uuid.UUID(str(payload["import_id"]))`, if it does not raise. -/
def payloadImport (payload : JsonObject) : Option Uuid :=
  (payload.lookup (text "import_id")).bind fun rawImportId =>
    deployment.identifiers.parse (deployment.runtime.str rawImportId)

/-- `payload["import_id"].as_string() == cast(CatalogImport.id, String)`. -/
def refersTo (payload : JsonObject) (importId : Uuid) : Bool :=
  match payload.lookup (text "import_id") with
  | some (.scalar (.string written)) => written = deployment.identifiers.str importId
  | _ => false

end Payloads

section Writes

/-- Of an object's columns those are written that changed since it was loaded. -/
def written {α : Type} [DecidableEq α] (stored loaded changed : α) : α :=
  if changed = loaded then stored else changed

namespace CatalogImport

/-- The row after an object that was loaded from it, maybe long ago, is flushed. -/
def write (stored loaded changed : CatalogImport) : CatalogImport where
  id := stored.id
  mode := stored.mode
  status := written stored.status loaded.status changed.status
  totalRows := written stored.totalRows loaded.totalRows changed.totalRows
  validRows := written stored.validRows loaded.validRows changed.validRows
  invalidRows := written stored.invalidRows loaded.invalidRows changed.invalidRows
  insertedCount := written stored.insertedCount loaded.insertedCount changed.insertedCount
  updatedCount := written stored.updatedCount loaded.updatedCount changed.updatedCount
  unchangedCount := written stored.unchangedCount loaded.unchangedCount changed.unchangedCount
  deactivatedCount :=
    written stored.deactivatedCount loaded.deactivatedCount changed.deactivatedCount
  reconciliation := written stored.reconciliation loaded.reconciliation changed.reconciliation
  failureReason := written stored.failureReason loaded.failureReason changed.failureReason
  promotedAt := written stored.promotedAt loaded.promotedAt changed.promotedAt

def exhaust (catalogImport : CatalogImport) (error : Text) : CatalogImport :=
  { catalogImport with
    status := .failed
    failureReason := some
      ((text "Catalog worker retry budget exhausted: " ++ error).take 2000) }

def strand (catalogImport : CatalogImport) (lastError : Option Text) : CatalogImport :=
  let detail := (lastError.filter fun error => error ≠ []).getD
    (text "Retry budget exhausted without a recorded worker error")
  { catalogImport with
    status := .failed
    failureReason := some ((text "Catalog worker job quarantined: " ++ detail).take 2000) }

theorem write_id (loaded changed stored : CatalogImport) :
    (stored.write loaded changed).id = stored.id := rfl

theorem exhaust_id (error : Text) (catalogImport : CatalogImport) :
    (catalogImport.exhaust error).id = catalogImport.id := rfl

theorem strand_id (lastError : Option Text) (catalogImport : CatalogImport) :
    (catalogImport.strand lastError).id = catalogImport.id := rfl

end CatalogImport

/-- A quarantined job whose import came through. Of what its session has loaded the status is
never the one that is written. -/
def settle (loaded stored : DurableJob) : DurableJob :=
  { stored with
    status := .completed
    lockedBy := written stored.lockedBy loaded.lockedBy none
    leaseExpiresAt := written stored.leaseExpiresAt loaded.leaseExpiresAt none
    lastError := written stored.lastError loaded.lastError none }

theorem settle_id (loaded stored : DurableJob) : (settle loaded stored).id = stored.id := rfl

end Writes

def CatalogImportStatus.terminal : CatalogImportStatus → Bool
  | .completed | .rejected | .failed => true
  | .validating | .ready | .processing => false

def CatalogImportStatus.validated : CatalogImportStatus → Bool
  | .ready | .completed | .rejected | .failed => true
  | .validating | .processing => false

section Services

variable (deployment : Deployment)

/-- `mark_catalog_import_failed_after_retry_exhaustion`. -/
def markExhausted (imports : Imports) (payload : JsonObject) (error : Text) : Imports × Bool :=
  match (payloadImport deployment payload).bind imports.find? with
  | none => (imports,false)
  | some stored =>
      if stored.status.terminal then (imports,false)
      else
        (imports.modify stored.id (fun stored => stored.exhaust error)
          (CatalogImport.exhaust_id error),true)

abbrev Stranded := DurableJob × CatalogImport

def strandedImports (jobs : Jobs) (imports : Imports) : List Stranded :=
  ((jobs.select fun job => job.tenantId = deployment.tenantId && job.kind = .catalogImport &&
      job.status = .quarantined).insertionSort fun left right =>
        left.createdAt ≤ right.createdAt).flatMap fun job =>
    (imports.select fun catalogImport => refersTo deployment job.payload catalogImport.id &&
      catalogImport.status ≠ .failed).map fun catalogImport => (job,catalogImport)

/-- An object that a session has loaded is not loaded again. -/
def loadedJob (session : List DurableJob) (stored : DurableJob) : DurableJob :=
  (session.find? fun job => job.id = stored.id).getD stored

/-- `SELECT … FOR UPDATE SKIP LOCKED LIMIT …` of a reconciliation. -/
def selectStranded (jobs : Jobs) (imports : Imports) (locked : Stranded → Bool) (limit : ℕ) :
    List Stranded :=
  ((strandedImports deployment jobs imports).filter fun pair => !locked pair).take limit

/-- The body of the loop of a reconciliation. -/
def reconcilePair (session : List DurableJob) (tables : Jobs × Imports) (pair : Stranded) :
    Jobs × Imports :=
  let job := loadedJob session pair.1
  if pair.2.status = .completed ∨ pair.2.status = .rejected then
    (tables.1.modify job.id (settle job) (settle_id job),tables.2)
  else
    (tables.1,tables.2.modify pair.2.id (fun stored => stored.strand job.lastError)
      (CatalogImport.strand_id job.lastError))

/-- The loop of a reconciliation over what it selected. -/
def reconcileStranded (session : List DurableJob) (jobs : Jobs) (imports : Imports)
    (stranded : List Stranded) : Jobs × Imports :=
  stranded.foldl (reconcilePair session) (jobs,imports)

end Services

/-- The tables of a tenant. The last field is no table: it lists the imports that a committed
promotion completed, each as often as that happened. -/
structure ImportStore where
  jobs : Jobs := Table.empty
  imports : Imports := Table.empty
  sources : Uuid → Option (List UInt8) := fun _ => none
  rows : Uuid → List CatalogImportRow := fun _ => []
  tables : Tables := {}
  promotions : List Uuid := []

inductive Phase where
  | waiting
  | claimed
  | reconciling (stranded : List Stranded)
  | opened (job : DurableJob) (payload : JsonObject)
  | validating (job : DurableJob) (catalogImport : CatalogImport) (tables : Tables)
  | staged (job : DurableJob) (importId : Uuid)
  | ready (job : DurableJob) (catalogImport : CatalogImport) (locked : Bool)
  | processed (job : DurableJob) (importId : Uuid) (locked : Bool)
  | raised (job : DurableJob) (error : Text)

/-- The imports that are locked for the session's transaction. -/
def Phase.locks : Phase → List Uuid
  | reconciling stranded => stranded.map fun pair => pair.2.id
  | validating _ catalogImport _ => [catalogImport.id]
  | ready _ catalogImport locked => if locked then [catalogImport.id] else []
  | processed _ importId locked => if locked then [importId] else []
  | waiting | claimed | opened .. | staged .. | raised .. => []

/-- The job that the worker is in the `try` block of. -/
def Phase.job? : Phase → Option DurableJob
  | opened job _ | validating job _ _ | staged job _ | ready job _ _ | processed job _ _ => some job
  | waiting | claimed | reconciling _ | raised .. => none

structure CatalogWorker where
  id : String
  jobs : List DurableJob := []
  phase : Phase := .waiting

def CatalogWorker.enter (worker : CatalogWorker) (phase : Phase) : CatalogWorker :=
  { worker with phase := phase }

/-- A statement of a worker, with what it reads of the database clock, the rows that it skips as
locked, or what is raised. -/
inductive Action where
  | claim (tenants : Tenants) (locked : SkipLocked) (now : Time)
  | select (locked : Stranded → Bool)
  | reconcile
  | turn
  | validate
  | stage
  | refresh
  | promote (now : Time)
  | complete
  | raise (error : Text)
  | handle (now : Time)
  | crash

section Statements

variable (deployment : Deployment) (free : Uuid → Bool) (store : ImportStore)
  (worker : CatalogWorker)

/-- What a worker is left with after a statement. Nothing if it has to wait or if this is not its
next statement. -/
abbrev Statement := Option (ImportStore × CatalogWorker)

def claimOne (tenants : Tenants) (locked : SkipLocked) (now : Time) : Statement :=
  match worker.phase, worker.jobs with
  | .waiting, [] =>
      let claimed := claimJobs tenants store.jobs locked
        { workerId := worker.id, limit := 1, leaseSeconds := deployment.settings.workerLeaseSeconds
          tenantId := some deployment.tenantId, kinds := some [.catalogImport] }
        deployment.settings.workerMaxAttempts now
      some ({ store with jobs := claimed.1 },{ worker with jobs := claimed.2, phase := .claimed })
  | _, _ => none

/-- A reconciliation skips what others have locked, and whatever else it finds locked. -/
def selectForReconciliation (locked : Stranded → Bool) : Statement :=
  match worker.phase with
  | .claimed => some (store,worker.enter (.reconciling (selectStranded deployment store.jobs
      store.imports (fun pair => locked pair || !free pair.2.id) 100)))
  | _ => none

def commitReconciliation : Statement :=
  match worker.phase with
  | .reconciling stranded =>
      let reconciled := reconcileStranded worker.jobs store.jobs store.imports stranded
      some ({ store with jobs := reconciled.1, imports := reconciled.2 },worker.enter .waiting)
  | _ => none

def turnToJob : Statement :=
  match worker.phase, worker.jobs with
  | .waiting, job :: jobs =>
      some (store,{ worker with
        jobs := jobs
        phase := match store.jobs.find? job.id with
          | none => .waiting
          | some current => .opened job current.payload })
  | _, _ => none

/-- `validate_and_stage_catalog_import` up to the state of the catalog that it loads. An import
that needs no validation stays locked. -/
def selectForValidation : Statement :=
  match worker.phase with
  | .opened job payload => do
      let importId ← payloadImport deployment payload
      let stored ← store.imports.find? importId
      if free importId then
        match stored.status with
        | .ready => return (store,worker.enter (.ready job stored true))
        | .completed | .rejected | .failed =>
            return (store,worker.enter (.processed job importId true))
        | .validating => return (store,worker.enter (.validating job stored store.tables))
        | .processing => none
      else none
  | _ => none

def commitStaging : Statement :=
  match worker.phase with
  | .validating job catalogImport tables => do
      let content ← store.sources catalogImport.id
      let staging ← (validateAndStage deployment.runtime tables catalogImport content).toOption
      return ({ store with
        imports := store.imports.modify catalogImport.id
          (fun stored => stored.write catalogImport staging.catalogImport)
          (CatalogImport.write_id catalogImport staging.catalogImport)
        rows := Function.update store.rows catalogImport.id staging.rows },
        worker.enter (.staged job catalogImport.id))
  | _ => none

/-- `db.refresh` after the commit, which locks nothing. -/
def refreshImport : Statement :=
  match worker.phase with
  | .staged job importId => do
      let stored ← store.imports.find? importId
      return (store,worker.enter
        (if stored.status = .ready then .ready job stored false
        else .processed job importId false))
  | _ => none

def stagedRows (catalogImport : CatalogImport) : List CatalogRowData :=
  Staging.readRows deployment.runtime ⟨catalogImport,store.rows catalogImport.id,[]⟩

/-- `promote_catalog_import` of an import that the session has loaded already. Selecting it for
update waits for its lock, and leaves the object as it was loaded. -/
def promoteLoaded (now : Time) : Statement :=
  match worker.phase with
  | .ready job loaded _ => do
      let _ ← store.imports.find? loaded.id
      if free loaded.id then
        let promoted ← (promoteCatalogImport deployment.runtime store.tables loaded
          (stagedRows deployment store loaded) now).toOption
        return ({ store with
          imports := store.imports.modify loaded.id
            (fun stored => stored.write loaded promoted.1)
            (CatalogImport.write_id loaded promoted.1)
          tables := promoted.2
          promotions := if promoted.1.status = .completed then store.promotions ++ [loaded.id]
            else store.promotions },
          worker.enter (.processed job loaded.id false))
      else none
  | _ => none

def completeJob : Statement :=
  match worker.phase with
  | .processed job _ _ =>
      some ({ store with jobs := (markCompleted store.jobs job.id worker.id).1 },
        worker.enter .waiting)
  | _ => none

/-- An exception leaves the block, which rolls its transaction back. -/
def raiseError (error : Text) : Statement :=
  worker.phase.job?.map fun job => (store,worker.enter (.raised job error))

/-- The `except` block: the import of a job without attempts left fails with it, unless the worker
has lost the job. -/
def handleError (now : Time) : Statement :=
  match worker.phase with
  | .raised job error =>
      let exhausted := decide (deployment.settings.workerMaxAttempts ≤ job.attempts)
      if exhausted && !(payloadImport deployment job.payload).all free then none
      else
        let imports := if exhausted then (markExhausted deployment store.imports job.payload error).1
          else store.imports
        let failed := markFailed store.jobs job.id worker.id error
          deployment.settings.workerMaxAttempts now
        some (if failed.2 then { store with jobs := failed.1, imports := imports } else store,
          worker.enter .waiting)
  | _ => none

def CatalogWorker.act : Action → Statement
  | .claim tenants locked now => claimOne deployment store worker tenants locked now
  | .select locked => selectForReconciliation deployment free store worker locked
  | .reconcile => commitReconciliation store worker
  | .turn => turnToJob store worker
  | .validate => selectForValidation deployment free store worker
  | .stage => commitStaging deployment store worker
  | .refresh => refreshImport store worker
  | .promote now => promoteLoaded deployment free store worker now
  | .complete => completeJob store worker
  | .raise error => raiseError store worker error
  | .handle now => handleError deployment free store worker now
  | .crash => some (store,{ id := worker.id })

end Statements

structure Upload where
  importId : Uuid
  jobId : Uuid
  mode : CatalogImportMode
  content : List UInt8

/-- `accept_catalog_import` of a source that is new. -/
def acceptImport (deployment : Deployment) (tenants : Tenants) (store : ImportStore)
    (upload : Upload) (now createdAt : Time) : Option ImportStore := do
  let imports ← store.imports.insert { id := upload.importId, mode := upload.mode }
  let enqueued ← (enqueueJob tenants store.jobs
    { id := upload.jobId, tenantId := deployment.tenantId, kind := .catalogImport
      payload := importPayload deployment upload.importId } now createdAt).toOption
  return { store with
    imports := imports
    jobs := enqueued.1
    sources := Function.update store.sources upload.importId (some upload.content) }

structure ImportState where
  store : ImportStore := {}
  workers : Table CatalogWorker.id := Table.empty

namespace ImportState

def worker (state : ImportState) (workerId : String) : CatalogWorker :=
  (state.workers.find? workerId).getD { id := workerId }

def free (state : ImportState) (workerId : String) (importId : Uuid) : Bool :=
  state.workers.rows.all fun other =>
    other.id = workerId || !decide (importId ∈ other.phase.locks)

end ImportState

inductive ImportEvent where
  | accept (tenants : Tenants) (upload : Upload) (now createdAt : Time)
  | heartbeat (workerId : String) (jobId : Uuid) (now : Time)
  | act (workerId : String) (action : Action)

/-- Any number of workers, their heartbeats and the service that accepts sources, in any order. -/
def importMachine (deployment : Deployment) : Machine ImportState ImportEvent where
  initial state := state = {}
  next state
    | .accept tenants upload now createdAt =>
        (acceptImport deployment tenants state.store upload now createdAt).map fun store =>
          { state with store := store }
    | .heartbeat workerId jobId now => some { state with
        store := { state.store with
          jobs := (renewLease state.store.jobs jobId workerId
            deployment.settings.workerLeaseSeconds now).1 } }
    | .act workerId action =>
        ((state.worker workerId).act deployment (state.free workerId) state.store action).map
          fun left => ⟨left.1,state.workers.put left.2⟩

/-- A promotion finds the import as ready as its session has it: nobody has promoted or failed it
in between. -/
def ImportState.undisturbed (state : ImportState) : ImportEvent → Bool
  | .act workerId (.promote _) =>
      match (state.worker workerId).phase with
      | .ready _ loaded _ =>
          (state.store.imports.find? loaded.id).all fun stored => stored.status = .ready
      | _ => true
  | _ => true

end Abacus.Catalog

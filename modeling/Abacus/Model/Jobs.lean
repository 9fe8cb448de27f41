import Abacus.Library.Json
import Abacus.Model.CurrentPrincipal

/-! The durable job queue (`services/jobs.py`).
The database clock is given with each call. So are the rows that other transactions hold locked
while a call claims jobs, since it skips them.
-/
set_option autoImplicit false

namespace Abacus

open Relational (Table)

inductive JobKind where
  | catalogImport | rfidObservation | replenishmentRecalc
deriving DecidableEq, Repr

inductive JobStatus where
  | pending | processing | completed | failed | quarantined
deriving DecidableEq, Repr

structure DurableJob where
  id : Uuid
  tenantId : Uuid
  kind : JobKind
  payload : Python.JsonObject
  status : JobStatus := .pending
  attempts : ℕ := 0
  availableAt : Time
  leaseExpiresAt : Option Time := none
  lockedBy : Option String := none
  lastError : Option Python.Text := none
  createdAt : Time
deriving DecidableEq

abbrev Jobs := Table DurableJob.id

abbrev Tenants := Uuid → Option TenantStatus

structure JobRequest where
  id : Uuid
  tenantId : Uuid
  kind : JobKind
  payload : Python.JsonObject
  availableAt : Option Time := none

def JobRequest.job (request : JobRequest) (now createdAt : Time) : DurableJob where
  id := request.id
  tenantId := request.tenantId
  kind := request.kind
  payload := request.payload
  availableAt := request.availableAt.getD now
  createdAt := createdAt

def enqueueJob (tenants : Tenants) (jobs : Jobs) (request : JobRequest) (now createdAt : Time) :
    Attempt (Jobs × DurableJob) := do
  let _ ← orIntegrityError "durable_jobs_tenant_id_fkey" (tenants request.tenantId)
  let job := request.job now createdAt
  let jobs ← orIntegrityError "durable_jobs_pkey" (jobs.insert job)
  return (jobs,job)

namespace DurableJob

/-- A retry that is due, or a lease that ran out. -/
def due (job : DurableJob) (now : Time) : Bool :=
  (job.status = .pending && decide (job.availableAt ≤ now)) ||
    (job.status = .processing && job.leaseExpiresAt.any fun expiry => decide (expiry ≤ now))

def exhaustedError (job : DurableJob) : Python.Text :=
  if job.status = .processing then
    Python.text "LeaseExpired: maximum processing attempts exhausted"
  else Python.text "MaximumAttemptsExceeded: pending job exhausted its attempt budget"

def quarantine (job : DurableJob) : DurableJob :=
  { job with
    status := .quarantined
    lockedBy := none
    leaseExpiresAt := none
    lastError := some job.exhaustedError }

def claim (job : DurableJob) (workerId : String) (leaseExpiresAt : Time) : DurableJob :=
  { job with
    status := .processing
    lockedBy := some workerId
    leaseExpiresAt := some leaseExpiresAt
    attempts := job.attempts + 1 }

def renew (job : DurableJob) (leaseExpiresAt : Time) : DurableJob :=
  { job with leaseExpiresAt := some leaseExpiresAt }

def complete (job : DurableJob) : DurableJob :=
  { job with status := .completed, lockedBy := none, leaseExpiresAt := none, lastError := none }

/-- Back to the queue with a growing delay, or out of it once the attempts are used up. -/
def fail (job : DurableJob) (error : Python.Text) (maxAttempts : ℕ) (now : Time) : DurableJob :=
  let released := { job with
    lastError := some (error.take 4000), lockedBy := none, leaseExpiresAt := none }
  if maxAttempts ≤ job.attempts then { released with status := .quarantined }
  else
    { released with
      status := .pending
      availableAt := now + seconds (min 300 (2 ^ min job.attempts 8) : ℕ) }

theorem quarantine_id (job : DurableJob) : job.quarantine.id = job.id := rfl

theorem claim_id (workerId : String) (leaseExpiresAt : Time) (job : DurableJob) :
    (job.claim workerId leaseExpiresAt).id = job.id := rfl

theorem renew_id (leaseExpiresAt : Time) (job : DurableJob) :
    (job.renew leaseExpiresAt).id = job.id := rfl

theorem complete_id (job : DurableJob) : job.complete.id = job.id := rfl

theorem fail_id (error : Python.Text) (maxAttempts : ℕ) (now : Time) (job : DurableJob) :
    (job.fail error maxAttempts now).id = job.id := by
  unfold fail
  split <;> rfl

def ownedBy (job : DurableJob) (workerId : String) : Bool :=
  job.status = .processing && job.lockedBy = some workerId

end DurableJob

structure ClaimRequest where
  workerId : String
  limit : ℕ
  leaseSeconds : ℤ
  tenantId : Option Uuid := none
  kinds : Option (List JobKind) := none

def ClaimRequest.inScope (request : ClaimRequest) (job : DurableJob) : Bool :=
  (request.tenantId.all fun tenantId => job.tenantId = tenantId) &&
    request.kinds.all fun kinds => job.kind ∈ kinds

/-- The rows that each of the two selections of a claim finds locked. -/
structure SkipLocked where
  exhausted : Uuid → Bool
  claimable : Uuid → Bool

/-- `SELECT … ORDER BY created_at FOR UPDATE SKIP LOCKED LIMIT …`. -/
def selectForUpdate (jobs : Jobs) (p : DurableJob → Bool) (locked : Uuid → Bool) (limit : ℕ) :
    List DurableJob :=
  ((jobs.select fun job => p job && !locked job.id).insertionSort
    fun left right => left.createdAt ≤ right.createdAt).take limit

def exhaustedJobs (jobs : Jobs) (locked : SkipLocked) (request : ClaimRequest) (maxAttempts : ℕ)
    (now : Time) : List DurableJob :=
  selectForUpdate jobs
    (fun job => request.inScope job && decide (maxAttempts ≤ job.attempts) && job.due now)
    locked.exhausted (max request.limit 1)

def claimableJobs (tenants : Tenants) (jobs : Jobs) (locked : SkipLocked) (request : ClaimRequest)
    (maxAttempts : ℕ) (now : Time) : List DurableJob :=
  selectForUpdate jobs
    (fun job => request.inScope job && job.due now && decide (job.attempts < maxAttempts) &&
      decide (tenants job.tenantId = some .active))
    locked.claimable request.limit

def updateJobs (jobs : Jobs) (chosen : List DurableJob) (change : DurableJob → DurableJob)
    (keeps : ∀ job, (change job).id = job.id) : Jobs :=
  jobs.updateWhere (fun job => decide (job.id ∈ chosen.map DurableJob.id)) change keeps

/-- Due work without attempts left is quarantined, then what is due is claimed. -/
def claimJobs (tenants : Tenants) (jobs : Jobs) (locked : SkipLocked) (request : ClaimRequest)
    (maxAttempts : ℕ) (now : Time) : Jobs × List DurableJob :=
  let exhausted := exhaustedJobs jobs locked request maxAttempts now
  let jobs := updateJobs jobs exhausted DurableJob.quarantine DurableJob.quarantine_id
  let claimed := claimableJobs tenants jobs locked request maxAttempts now
  let leaseExpiresAt := now + seconds request.leaseSeconds
  (updateJobs jobs claimed (fun job => job.claim request.workerId leaseExpiresAt)
      (DurableJob.claim_id request.workerId leaseExpiresAt),
    claimed.map fun job => job.claim request.workerId leaseExpiresAt)

/-- `UPDATE … WHERE p`, undone unless it hits exactly one row. -/
def updateOne (jobs : Jobs) (p : DurableJob → Bool) (change : DurableJob → DurableJob)
    (keeps : ∀ job, (change job).id = job.id) : Jobs × Bool :=
  if (jobs.select p).length = 1 then (jobs.updateWhere p change keeps,true) else (jobs,false)

/-- Extend a lease only while this worker still owns it. -/
def renewLease (jobs : Jobs) (jobId : Uuid) (workerId : String) (leaseSeconds : ℤ) (now : Time) :
    Jobs × Bool :=
  updateOne jobs
    (fun job => job.id = jobId && job.ownedBy workerId &&
      job.leaseExpiresAt.any fun expiry => decide (now < expiry))
    (fun job => job.renew (now + seconds leaseSeconds))
    (DurableJob.renew_id (now + seconds leaseSeconds))

/-- Complete by compare-and-set, so that a stale worker cannot take a reclaimed job. -/
def markCompleted (jobs : Jobs) (jobId : Uuid) (workerId : String) : Jobs × Bool :=
  updateOne jobs (fun job => job.id = jobId && job.ownedBy workerId) DurableJob.complete
    DurableJob.complete_id

/-- The error is given as its type's name, a colon and its message. -/
def markFailed (jobs : Jobs) (jobId : Uuid) (workerId : String) (error : Python.Text)
    (maxAttempts : ℕ) (now : Time) : Jobs × Bool :=
  match jobs.find? jobId with
  | none => (jobs,false)
  | some job =>
      if job.ownedBy workerId then
        (jobs.modify jobId (fun job => job.fail error maxAttempts now)
          (DurableJob.fail_id error maxAttempts now),true)
      else (jobs,false)

end Abacus

import Abacus.Model.Replenishment

/-! Changing the status of a task (`patch_replenishment_task`).
The task is read without a lock and checked; the later update compares the version of
the request with the row's and with nothing that was read.
-/
set_option autoImplicit false

namespace Abacus

open Relational (Table)

def ReplenishmentTaskStatus.value : ReplenishmentTaskStatus → String
  | .open => "OPEN"
  | .claimed => "CLAIMED"
  | .inProgress => "IN_PROGRESS"
  | .completed => "COMPLETED"
  | .canceled => "CANCELED"
  | .expired => "EXPIRED"

/-- `note` is absent when the request does not set the field. -/
structure ReplenishmentTaskPatch where
  status : ReplenishmentTaskStatus
  version : ℕ
  note : Option (Option String) := none
  positiveVersion : 1 ≤ version := by decide

def ReplenishmentTaskStatus.closing : ReplenishmentTaskStatus → Bool
  | .canceled | .expired => true
  | _ => false

def allowedTransitions : ReplenishmentTaskStatus → List ReplenishmentTaskStatus
  | .open => [.claimed]
  | .claimed => [.inProgress]
  | .inProgress => [.completed]
  | .completed | .canceled | .expired => []

def taskNotFound : Failure :=
  .apiError 404 "Task not found" "The replenishment task does not exist." none

def taskTransitionForbidden : Failure :=
  .apiError 403 "Forbidden" "Only a store manager may cancel or expire an active task."
    (some "task_transition_forbidden")

def invalidTaskTransition (source target : ReplenishmentTaskStatus) : Failure :=
  .apiError 409 "Invalid task transition"
    s!"{source.value} cannot transition to {target.value}." (some "invalid_task_transition")

def taskClaimDenied : Failure :=
  .apiError 403 "Forbidden" "Only the claimant or a store manager may advance this task."
    (some "task_claim_denied")

def Principal.manages (principal : Principal) (task : ReplenishmentTask) : Bool :=
  principal.canAccessStore .replenishmentManage task.storeId

def checkTaskTransition (principal : Principal) (task : ReplenishmentTask)
    (status : ReplenishmentTaskStatus) : Attempt Unit :=
  if status.closing then
    if ¬principal.manages task then .error taskTransitionForbidden
    else if ¬task.status.active then .error (invalidTaskTransition task.status status)
    else .ok ()
  else if status ∉ allowedTransitions task.status then
    .error (invalidTaskTransition task.status status)
  else .ok ()

def checkTaskClaimant (principal : Principal) (task : ReplenishmentTask) : Attempt Unit :=
  if (task.status = .claimed ∨ task.status = .inProgress) ∧
      task.claimedByUserId ≠ some principal.userId ∧ ¬principal.manages task then
    .error taskClaimDenied
  else .ok ()

def checkTaskPatch (principal : Principal) (task : ReplenishmentTask)
    (request : ReplenishmentTaskPatch) : Attempt Unit := do
  ensureStoreScope principal .replenishmentExecute task.storeId
  checkTaskTransition principal task request.status
  checkTaskClaimant principal task

def readTaskToPatch (tasks : Table ReplenishmentTask.id) (principal : Principal) (taskId : Uuid)
    (request : ReplenishmentTaskPatch) : Attempt ReplenishmentTask :=
  match tasks.find? taskId with
  | none => .error taskNotFound
  | some task => do
      checkTaskPatch principal task request
      return task

def ReplenishmentTask.patch (principal : Principal) (request : ReplenishmentTaskPatch) (now : Time)
    (verificationWindowSeconds : ℕ) (task : ReplenishmentTask) : ReplenishmentTask :=
  { task with
    status := request.status
    version := request.version + 1
    claimedByUserId :=
      if request.status = .claimed then some principal.userId else task.claimedByUserId
    claimedAt := if request.status = .claimed then some now else task.claimedAt
    startedAt := if request.status = .inProgress then some now else task.startedAt
    completedAt := if request.status = .completed then some now else task.completedAt
    verificationDeadline :=
      if request.status = .completed then some (now + seconds verificationWindowSeconds)
      else task.verificationDeadline
    expiresAt := if request.status = .expired then some now else task.expiresAt
    note := request.note.getD task.note
    positiveVersion := by omega }

@[simp] theorem ReplenishmentTask.patch_id (principal : Principal) (request : ReplenishmentTaskPatch)
    (now : Time) (window : ℕ) (task : ReplenishmentTask) :
    (task.patch principal request now window).id = task.id := rfl

/-- The update of one task, refused by the unique index if it makes a second task of a SKU active. -/
def Replenishment.patchTask (replenishment : Replenishment) (taskId : Uuid) (principal : Principal)
    (request : ReplenishmentTaskPatch) (now : Time) (window : ℕ) : Option Replenishment :=
  let tasks := replenishment.tasks.modify taskId
    (ReplenishmentTask.patch principal request now window)
    (ReplenishmentTask.patch_id principal request now window)
  if oneActive : ∀ first ∈ tasks.rows, ∀ second ∈ tasks.rows, first.status.active →
      second.status.active → first.storeId = second.storeId → first.skuId = second.skuId →
      first = second then
    some { tasks, evidence := replenishment.evidence, oneActive }
  else none

def taskVersionConflict : Failure :=
  .apiError 409 "Task version conflict"
    "The task changed; reload it and retry with the latest version." (some "task_version_conflict")

/-- `patch_replenishment_task` as one atomic transaction: the update finds the row that was read. -/
def patchReplenishmentTask (replenishment : Replenishment) (principal : Principal) (taskId : Uuid)
    (request : ReplenishmentTaskPatch) (now : Time) (verificationWindowSeconds : ℕ) :
    Attempt Replenishment := do
  let task ← readTaskToPatch replenishment.tasks principal taskId request
  if task.version ≠ request.version then .error taskVersionConflict
  else
    orIntegrityError "uq_replenishment_tasks_active_store_sku"
      (replenishment.patchTask task.id principal request now verificationWindowSeconds)

end Abacus

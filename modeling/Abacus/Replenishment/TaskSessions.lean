import Abacus.Library.Machine
import Abacus.Model.TaskPatch
import Abacus.Replenishment.Evaluation

/-! The sessions that write tasks, statement by statement.
A patch reads without a lock, its update locks the row until it commits. An evaluation
locks the active tasks of its store, a verification the task that it bumps.
-/
set_option autoImplicit false

namespace Abacus

open Relational (Table)
open Transition (Machine)

section Machine

inductive TaskWork where
  | patching (principal : Principal) (request : ReplenishmentTaskPatch) (read : ReplenishmentTask)
  | patched (principal : Principal) (request : ReplenishmentTaskPatch) (taskId : Uuid) (now : Time)
  | evaluating (storeId : Uuid) (outcomes : List EvaluationOutcome) (locked : List Uuid)
  | verifying (evidence : ReplenishmentTaskEvidence)

structure TaskSession where
  id : Uuid
  work : TaskWork

def TaskWork.locks : TaskWork → List Uuid
  | .patching .. => []
  | .patched _ _ taskId _ => [taskId]
  | .evaluating _ _ locked => locked
  | .verifying evidence => [evidence.taskId]

def TaskWork.evaluates (storeId : Uuid) : TaskWork → Bool
  | .evaluating store _ _ => decide (store = storeId)
  | _ => false

structure TaskState where
  replenishment : Replenishment
  sessions : Table TaskSession.id

def TaskState.isLocked (state : TaskState) (taskId : Uuid) : Bool :=
  state.sessions.rows.any fun session => decide (taskId ∈ session.work.locks)

/-- The lock on the store's row, which evaluations take first. -/
def TaskState.isEvaluated (state : TaskState) (storeId : Uuid) : Bool :=
  state.sessions.rows.any fun session => session.work.evaluates storeId

def TaskState.begin (state : TaskState) (sessionId : Uuid) (work : TaskWork) : Option TaskState :=
  (state.sessions.insert ⟨sessionId,work⟩).map fun sessions => { state with sessions }

def TaskState.proceed (state : TaskState) (sessionId : Uuid) (work : TaskWork) : TaskState :=
  { state with
    sessions := state.sessions.modify sessionId (fun session => { session with work })
      fun _ => rfl }

def TaskState.finish (state : TaskState) (sessionId : Uuid) : TaskState :=
  { state with
    sessions := state.sessions.deleteWhere fun session => decide (session.id = sessionId) }

/-- What a commit makes visible; `none` when a constraint refuses it. -/
def TaskWork.write (window : ℕ) (replenishment : Replenishment) : TaskWork → Option Replenishment
  | .patching .. => some replenishment
  | .patched principal request taskId now =>
      replenishment.patchTask taskId principal request now window
  | .evaluating _ outcomes _ => replenishment.recordAll outcomes
  | .verifying evidence => (replenishment.evidence.insert evidence).map fun rows =>
      { replenishment.modifyTask evidence.taskId ReplenishmentTask.verify ReplenishmentTask.verify_id
        ReplenishmentTask.verify_inPlace with evidence := rows }

/-- One statement. The tasks of an evaluation's `environment` are not used: it reads the committed
ones. A verification may find any task that it may verify, since the row its statement waits
for need not be the first any more once the lock is granted. -/
inductive TaskEvent where
  | patchRead (sessionId taskId : Uuid) (principal : Principal) (request : ReplenishmentTaskPatch)
  | patchUpdate (sessionId : Uuid) (now : Time)
  | evaluationLock (sessionId : Uuid) (environment : Database) (principal : Principal)
      (request : ReplenishmentEvaluationCreate) (minimumConfidence : ℚ) (evaluatedAt : Time)
      (taskId : Uuid → Uuid)
  | verificationLock (sessionId storeId skuId : Uuid) (evidence : ReplenishmentTaskEvidence)
  | commit (sessionId : Uuid)
  | rollback (sessionId : Uuid)

def activeTaskIds (replenishment : Replenishment) (storeId : Uuid) : List Uuid :=
  (replenishment.tasks.select fun task =>
    decide (task.storeId = storeId) && task.status.active).map ReplenishmentTask.id

instance (settings : Settings) (db : Database) (principal : Principal)
    (request : ReplenishmentEvaluationCreate) (evaluatedAt : Time) :
    Decidable (EvaluationOpens settings db principal request evaluatedAt) :=
  inferInstanceAs (Decidable (_ ∧ _ ∧ _))

def TaskState.matchesVersion (state : TaskState) (taskId : Uuid) (request : ReplenishmentTaskPatch) :
    Bool :=
  (state.replenishment.tasks.find? taskId).any fun task => decide (task.version = request.version)

def TaskState.patchRead (state : TaskState) (sessionId taskId : Uuid) (principal : Principal)
    (request : ReplenishmentTaskPatch) : Option TaskState :=
  match readTaskToPatch state.replenishment.tasks principal taskId request with
  | .error _ => some state
  | .ok task => state.begin sessionId (.patching principal request task)

/-- Blocked while another session holds the row; a version conflict ends the session. -/
def TaskState.patchUpdate (state : TaskState) (sessionId : Uuid) (now : Time) : Option TaskState :=
  match (state.sessions.find? sessionId).map TaskSession.work with
  | some (.patching principal request read) =>
      if state.isLocked read.id then none
      else if state.matchesVersion read.id request then
        some (state.proceed sessionId (.patched principal request read.id now))
      else some (state.finish sessionId)
  | _ => none

/-- Blocked while another session holds the store's row or one of its active tasks. -/
def TaskState.evaluationLock (platform : Platform) (settings : Settings) (state : TaskState)
    (sessionId : Uuid) (environment : Database) (principal : Principal)
    (request : ReplenishmentEvaluationCreate) (minimumConfidence : ℚ) (evaluatedAt : Time)
    (taskId : Uuid → Uuid) : Option TaskState :=
  if state.isEvaluated request.storeId ||
      (activeTaskIds state.replenishment request.storeId).any state.isLocked then none
  else if EvaluationOpens settings { environment with replenishment := state.replenishment } principal
      request evaluatedAt then
    match evaluationOutcomes platform settings
        { environment with replenishment := state.replenishment } request minimumConfidence
        evaluatedAt taskId with
    | .error _ => some state
    | .ok outcomes => state.begin sessionId
        (.evaluating request.storeId outcomes (activeTaskIds state.replenishment request.storeId))
  else some state

def TaskState.verificationLock (state : TaskState) (sessionId storeId skuId : Uuid)
    (evidence : ReplenishmentTaskEvidence) : Option TaskState :=
  if (state.replenishment.tasks.find? evidence.taskId).any fun task =>
      task.verifiable storeId skuId evidence.observedAt then
    if state.isLocked evidence.taskId then none else state.begin sessionId (.verifying evidence)
  else some state

/-- A commit that a constraint refuses ends the session without a trace. -/
def TaskState.commitSession (window : ℕ) (state : TaskState) (session : TaskSession) : TaskState :=
  match session.work.write window state.replenishment with
  | none => state.finish session.id
  | some replenishment => { state.finish session.id with replenishment }

def TaskState.next (platform : Platform) (settings : Settings) (window : ℕ) (state : TaskState) :
    TaskEvent → Option TaskState
  | .patchRead sessionId taskId principal request =>
      state.patchRead sessionId taskId principal request
  | .patchUpdate sessionId now => state.patchUpdate sessionId now
  | .evaluationLock sessionId environment principal request minimumConfidence evaluatedAt taskId =>
      state.evaluationLock platform settings sessionId environment principal request
        minimumConfidence evaluatedAt taskId
  | .verificationLock sessionId storeId skuId evidence =>
      state.verificationLock sessionId storeId skuId evidence
  | .commit sessionId => (state.sessions.find? sessionId).map (state.commitSession window)
  | .rollback sessionId => some (state.finish sessionId)

def taskSessions (platform : Platform) (settings : Settings) (window : ℕ) :
    Machine TaskState TaskEvent where
  initial state := state.sessions.rows = []
  next := TaskState.next platform settings window

end Machine

end Abacus
